import MarkdownSite.Log.Record
import MarkdownSite.Unicode.Casing
import MarkdownSite.Value.Shown

/-!
# Log handlers

A handler writes the records that are grave enough for it as lines, to the error output or to the
end of a file. How grave a record must be is given by a number or by the name of a level.
-/

namespace MarkdownSite

/-- The number that a name of a level stands for; letter case does not matter. -/
def LogLevel.numberOfName? (name : Text) : Option Int :=
  ([("DEBUG", 10), ("INFO", 20), ("WARNING", 30), ("WARN", 30), ("ERROR", 40), ("CRITICAL", 50),
    ("FATAL", 50), ("NOTSET", 0)] : List (Text × Int)).lookup (Unicode.upper name)

/-- The least number of a record that a setting lets through. A number stands for itself; what names
no level lets records of information through. -/
def LogLevel.threshold : Value → Int
  | .int n => n
  | .bool b => if b then 1 else 0
  | setting => (LogLevel.numberOfName? setting.toText).getD LogLevel.info.number

/-- How a record is laid out on its line. -/
inductive LogLayout where
  /-- The level and the message. -/
  | plain
  /-- The time, the level, the source and the message. -/
  | traced
  deriving DecidableEq, Repr

namespace LogLayout

/-- The pattern of a layout. -/
def pattern : LogLayout → Text
  | plain => "sitemark %(levelname)s: %(message)s"
  | traced => "[%(asctime)s] [%(levelname)s] [%(name)s] %(message)s"

/-- The line of a record that is written at a time. -/
def line (layout : LogLayout) (time : Text) (record : LogRecord) : Text :=
  match layout with
  | plain => "sitemark " ++ record.level.name ++ ": " ++ record.message ++ "\n"
  | traced =>
    "[" ++ time ++ "] [" ++ record.level.name ++ "] [" ++ record.source.name ++ "] "
      ++ record.message ++ "\n"

end LogLayout

/-- Where lines go. -/
inductive LogTarget where
  | errorOutput
  | file (path : Text)
  deriving DecidableEq, Repr

/-- A writer of records. -/
structure LogHandler where
  /-- Where its lines go. -/
  target : LogTarget
  /-- The least number of a record that it writes. -/
  threshold : Int
  /-- The form of its lines. -/
  layout : LogLayout
  deriving DecidableEq, Repr

end MarkdownSite
