import MarkdownSite.Text.Basic

/-!
# Why a configuration cannot be loaded
-/

namespace MarkdownSite

/-- The formats of configuration files. -/
inductive ConfigFormat where
  | yaml
  | toml
  | json
  deriving DecidableEq, Repr

namespace ConfigFormat

/-- The name of a format. -/
def name : ConfigFormat → Text
  | yaml => "YAML"
  | toml => "TOML"
  | json => "JSON"

/-- The format of files whose names end so; letter case does not matter. -/
def ofExtension? (extension : Text) : Option ConfigFormat :=
  ([(".yaml", yaml), (".yml", yaml), (".toml", toml), (".json", json)]
    : List (Text × ConfigFormat)).lookup extension

end ConfigFormat

/-- Why a configuration cannot be loaded. -/
inductive ConfigError where
  /-- There is no file of that path. -/
  | missing (path : Text)
  /-- The ending of the name, or the name if it has none, stands for no format. -/
  | unknownFormat (path ending : Text)
  /-- The text of the file is not in its format. -/
  | invalid (format : ConfigFormat) (path : Text)
  /-- The file holds a value of another kind than a mapping. -/
  | notMapping (path kindName : Text)
  /-- The options under `marked` are a value of another kind than a mapping. -/
  | optionsNotMapping (path kindName : Text)
  /-- The file is no text. -/
  | notText
  deriving DecidableEq, Repr

namespace ConfigError

/-- The path of the file that an error is about. -/
def path? : ConfigError → Option Text
  | missing path => some path
  | unknownFormat path _ => some path
  | invalid _ path => some path
  | notMapping path _ => some path
  | optionsNotMapping path _ => some path
  | notText => none

/-- The text of an error. -/
def message : ConfigError → Text
  | missing path => "Configuration file does not exist: " ++ path
  | unknownFormat _ ending =>
    "Unsupported config file format: " ++ ending ++ ". Use .yaml, .yml, .toml or .json"
  | invalid format path => "Invalid " ++ format.name ++ " in config file " ++ path
  | notMapping _ kindName =>
    "Config file must contain a mapping at the top level, got " ++ kindName
  | optionsNotMapping path kindName =>
    "'marked' section in " ++ path ++ " must be a mapping, got " ++ kindName
  | notText => "The file is no text in UTF-8"

end ConfigError

end MarkdownSite
