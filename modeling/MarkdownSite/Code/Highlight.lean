import MarkdownSite.Code.DiffTokens
import MarkdownSite.Code.JsonTokens
import MarkdownSite.Log.Record
import MarkdownSite.Text.Blank
import MarkdownSite.Text.Quoted
import MarkdownSite.Unicode.Casing

/-!
# Code blocks

The body of a code block: the indentation that all lines share and the line feeds at the end go,
and the rest is highlighted if the highlighter knows its language, or else escaped.
-/

namespace MarkdownSite.Code

open Text

/-- The language that the words after a fence name: the first of them. -/
def languageOf (info : Text) : Option Text := (words info).head?

/-- What two texts have in common at their start. -/
def commonPrefix : Text → Text → Text
  | a :: s, b :: t => if a = b then a :: commonPrefix s t else []
  | _, _ => []

/-- The indentation of a line. -/
def indentOf (line : Text) : Text := line.takeWhile isSpaceTab

/-- Empties a line of spaces and tabs. -/
def emptyIfBlank (line : Text) : Text := if line.all isSpaceTab then [] else line

/-- The indentation that the nonempty lines share. -/
def sharedIndent (lines : List Text) : Text :=
  match (lines.filter fun line => !line.isEmpty).map indentOf with
  | [] => []
  | first :: rest => rest.foldl commonPrefix first

/-- Removes the indentation that all lines share, and empties lines of spaces and tabs. -/
def dedent (code : Text) : Text :=
  let lines := (splitOn '\n' code).map emptyIfBlank
  let margin := sharedIndent lines
  join ['\n'] (lines.map fun line => (dropPrefix? margin line).getD line)

/-- Code without the indentation that all lines share and without line feeds at its end. -/
def trimCode (code : Text) : Text := stripEndWhere (· == '\n') (dedent code)

/-- All line ends as line feeds, and no mark of byte order at the start. -/
def normalizeLines (code : Text) : Text :=
  let code := match code with
    | '\uFEFF' :: rest => rest
    | code => code
  replaceChar '\r' '\n' (replace ['\r', '\n'] ['\n'] code)

/-- The tokens of code in the languages at hand, by the names of the language. -/
def tokensOf? (language : Text) : Option (Text → List Token) :=
  let name := Unicode.lower language
  if name = String.toList "text" then some fun code => [⟨.plain, code⟩]
  else if name = String.toList "json" ∨ name = String.toList "json-object" then some jsonTokens
  else if name = String.toList "diff" ∨ name = String.toList "udiff" then some diffTokens
  else none

/-- What highlights code in the languages at hand. A host may put another one in its place, which
knows other languages. -/
def Highlighter.standard : Highlighter where
  write? language := (tokensOf? language).map fun tokens code =>
    spans (tokens (normalizeLines code))
  writes_spans := by
    intro language write known code
    obtain ⟨tokens, -, rfl⟩ := Option.map_eq_some_iff.mp known
    exact isSpanned_spans _

/-- The body of a code block as HTML: code in a language that the highlighter knows is highlighted,
unless that is not wanted. -/
def highlight (highlighter : Highlighter) (code : Text) (language : Option Text) (enabled : Bool) :
    Logged Text := do
  let code := trimCode code
  match language with
  | none | some [] => return escapeContent code
  | some language =>
    if !enabled then return escapeContent code
    match highlighter.write? language with
    | some write => return write code
    | none =>
      debug .highlighting
        ("No Pygments lexer for language " ++ quoted language ++ ", emitting plain code")
      return escapeContent code

end MarkdownSite.Code
