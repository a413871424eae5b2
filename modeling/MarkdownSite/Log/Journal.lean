import MarkdownSite.Log.Handler

/-!
# The journal of a host

A journal is what the records of the library have left behind in a host: the lines on the error
output and those in files. Its handlers decide which records those are. Without a handler only
warnings and what is graver reach the error output, as bare messages.
-/

namespace MarkdownSite

/-- What a host keeps of the records. -/
structure Journal where
  /-- The least number of a record that is kept; zero leaves it to the host. -/
  threshold : Int := 0
  /-- Whether records go on to the handlers of the host. -/
  propagates : Bool := true
  /-- The handlers, in the order in which they write. -/
  handlers : List LogHandler := []
  /-- What the error output holds. -/
  errorOutput : Text := []
  /-- The paths of the files and what they hold. -/
  files : List (Text × Text) := []
  deriving Repr

/-- What a host asks of its journal. -/
structure JournalSettings where
  /-- How grave a record must be: a number or the name of a level. -/
  level : Value := .int LogLevel.warning.number
  /-- The path of the file that also gets the lines, if there is one. -/
  file? : Option Text := none
  /-- The form of the lines. -/
  layout : LogLayout := .plain

namespace Journal

/-- The least number of a record that is kept; a host that is asked for none keeps warnings. -/
def effectiveThreshold (journal : Journal) : Int :=
  if journal.threshold == 0 then LogLevel.warning.number else journal.threshold

/-- What the file at a path holds. -/
def read? (journal : Journal) (path : Text) : Option Text := journal.files.lookup path

/-- Adds a text at the end of a target. -/
def append (journal : Journal) (text : Text) : LogTarget → Journal
  | .errorOutput => { journal with errorOutput := journal.errorOutput ++ text }
  | .file path =>
    { journal with files := journal.files.map fun (other, held) =>
        (other, if other == path then held ++ text else held) }

/-- Writes a record at a time where the handlers put it. -/
def write (time : Text) (journal : Journal) (record : LogRecord) : Journal :=
  let number := record.level.number
  if number < journal.effectiveThreshold then journal
  else if journal.handlers.isEmpty then
    if number < LogLevel.warning.number then journal
    else journal.append (record.message ++ "\n") .errorOutput
  else journal.handlers.foldl (fun journal handler =>
    if number < handler.threshold then journal
    else journal.append (handler.layout.line time record) handler.target) journal

/-- Runs a computation and writes what it reports. -/
def run {α : Type} (journal : Journal) (time : Text) (work : Logged α) : α × Journal :=
  let (result, records) := work.run []
  (result, records.foldl (write time) journal)

/-- The journal without its handlers; how grave a record must be stays as it was. -/
def withoutHandlers (journal : Journal) : Journal := { journal with handlers := [] }

/-- The journal with the file at a path, which keeps what it holds, or why there can be no such
file: its directory has to be there, and only that of the files themselves is. -/
def openFile (journal : Journal) (path : Text) : Except Text Journal :=
  if List.elem '/' path then
    .error ("[Errno 2] No such file or directory: '" ++ path ++ "'")
  else if (journal.read? path).isSome then .ok journal
  else .ok { journal with files := journal.files ++ [(path, [])] }

/-- Replaces the handlers by those that the settings ask for: one for the error output, and one for
the file if it can be opened. -/
def configure (journal : Journal) (time : Text) (settings : JournalSettings) : Journal :=
  let threshold := LogLevel.threshold settings.level
  let handler target : LogHandler := ⟨target, threshold, settings.layout⟩
  let journal := { journal with threshold, propagates := false, handlers := [handler .errorOutput] }
  match settings.file? with
  | none | some [] => journal
  | some path =>
    match journal.openFile path with
    | .ok journal =>
      { journal with handlers := journal.handlers ++ [handler (.file path)] }.write time
        ⟨.debug, .library, "Writing render log to " ++ path⟩
    | .error cause =>
      journal.write time
        ⟨.warning, .library, "Could not open build log " ++ path ++ ": " ++ cause⟩

end Journal

end MarkdownSite
