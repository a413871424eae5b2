import MarkdownSite.Text.Quoted
import MarkdownSite.Value.Basic

/-!
# Values in words

How messages and texts show a value: words for null and the truth values, the fewest digits for
numbers, quotes around texts inside other values.
-/

namespace MarkdownSite.Value

mutual

/-- A value as messages show it, texts in quotes. -/
def shown : Value → Text
  | null => "None"
  | bool b => if b then "True" else "False"
  | int n => Text.ofInt n
  | float x => x.toText
  | text t => Text.quoted t
  | list items => '[' :: Text.join ", " (shownItems items) ++ [']']
  | map entries => '\x7b' :: Text.join ", " (shownEntries entries) ++ ['\x7d']

/-- The values of a list as messages show them. -/
def shownItems : List Value → List Text
  | [] => []
  | v :: rest => v.shown :: shownItems rest

/-- The entries of a mapping as messages show them. -/
def shownEntries : List (Text × Value) → List Text
  | [] => []
  | (key, v) :: rest => (Text.quoted key ++ ": " ++ v.shown) :: shownEntries rest

end

/-- A value as text: a text as it is, other values as messages show them. -/
def toText : Value → Text
  | text t => t
  | v => v.shown

end MarkdownSite.Value
