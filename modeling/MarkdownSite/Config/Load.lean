import MarkdownSite.Config.Failure
import MarkdownSite.Config.File
import MarkdownSite.Log.Record
import MarkdownSite.Toml.Document
import MarkdownSite.Unicode.Casing
import MarkdownSite.Yaml.Document

/-!
# Loading of configurations

The configuration of a site is a mapping in a file, whose name tells its format. Without a path, the
environment may give one; without either the configuration is empty.
-/

namespace MarkdownSite

open Text

variable {σ : Type}

/-- The value that a text writes in a format. -/
def ConfigFormat.read? (yaml : Yaml.Reader σ) (format : ConfigFormat) (t : Text) : Option Value :=
  match format with
  | .yaml => yaml.read? (pieces (withLineFeeds t))
  | .toml => (Toml.entries? t).map .map
  | .json => Value.ofJson? (withLineFeeds t)

/-- The configuration that a value of a file at a path gives; null gives none. -/
def configOfValue? (path : Text) : Value → Except ConfigError (Option Entries)
  | .null => .ok none
  | .map entries =>
    match Entries.get? entries "marked" with
    | none | some .null | some (.map _) => .ok (some entries)
    | some options => .error (.optionsNotMapping path options.kindName)
  | v => .error (.notMapping path v.kindName)

/-- Whether an error is found in a content before the decoder fails: only YAML is looked at while it
is still read. -/
def ConfigFormat.refuses (yaml : Yaml.Reader σ) (format : ConfigFormat) (content : ByteArray) :
    Bool :=
  format == .yaml && (yaml.after? (piecesBefore content)).isNone

/-- The value that a file holds. -/
def FileTree.readValue (yaml : Yaml.Reader σ) (tree : FileTree) (path : Text) :
    Except ConfigError Value := do
  let some content := tree.read? path | throw (.missing path)
  let name := fileName path
  let ending := Unicode.lower (fileExtension name)
  let some format := ConfigFormat.ofExtension? ending
    | throw (.unknownFormat path (if ending.isEmpty then name else ending))
  let some text := String.fromUTF8? content
    | throw (if format.refuses yaml content then .invalid format path else .notText)
  let some v := format.read? yaml text.toList | throw (.invalid format path)
  return v

/-- The variable of the environment that may give the path of the configuration. -/
def configVariable : Text := "SITEMARK_CONFIG"

/-- The configuration in the file at a path; a file that gives none stands for the empty one. -/
def loadConfigFile (yaml : Yaml.Reader σ) (tree : FileTree) (path : Text) :
    ExceptT ConfigError Logged Entries := do
  let path := cleanPath path
  match tree.readValue yaml path >>= configOfValue? path with
  | .ok (some config) =>
    (debug .configuration ("Loaded site config from " ++ path) : Logged Unit)
    return config
  | .ok none => return []
  | .error e => throw e

/-- The configuration at a path, or else at the path that the environment gives. -/
def loadConfig (yaml : Yaml.Reader σ) (tree : FileTree) (environment path : Option Text) :
    ExceptT ConfigError Logged Entries := do
  match path, environment with
  | some path, _ => loadConfigFile yaml tree path
  | none, none | none, some [] => return []
  | none, some path =>
    (debug .configuration
      ("Using site config from " ++ configVariable ++ ": " ++ path) : Logged Unit)
    loadConfigFile yaml tree path

end MarkdownSite
