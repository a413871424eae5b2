import MarkdownSite.Markdown.Definition
import MarkdownSite.Markdown.Inline.Basic

/-!
# Link targets and addresses

What follows the brackets of a link, and the addresses that are links by themselves.
-/

namespace MarkdownSite.Markdown

open Text

/-- The text up to the bracket that closes one already read, and what follows; `depth` counts the
brackets that have been opened since. Escaped brackets do not count. -/
def throughBracket (depth : Nat) : Text → Option (Text × Text)
  | [] => none
  | '\\' :: c :: t =>
    (throughBracket depth t).map fun (inside, rest) => ('\\' :: c :: inside, rest)
  | c :: t =>
    let go (depth : Nat) : Option (Text × Text) :=
      (throughBracket depth t).map fun (inside, rest) => (c :: inside, rest)
    if c = ']' then
      match depth with
      | 0 => some ([], t)
      | depth + 1 => go depth
    else go (if c = '[' then depth + 1 else depth)

/-- The destination of a link, and what follows it. -/
def linkDestination? (t : Text) : Option (Text × Text) :=
  match t with
  | '<' :: rest => bracketedDestination? rest
  | _ => some (bareDestination 0 t)

/-- What follows the parenthesis that closes the target of a link. -/
def afterTarget? (t : Text) : Option Text :=
  match dropBlanksWithinLines t with
  | ')' :: rest => some rest
  | _ => none

/-- The target that a link gives itself, read after the opening parenthesis, and what follows the
closing one. -/
def inlineTarget? (t : Text) : Option (LinkTarget × Text) := do
  let (url, rest) ← linkDestination? (dropBlanksWithinLines t)
  let url := Url.target (unescape url)
  match afterTarget? rest with
  | some after => return ({ url }, after)
  | none =>
    if !rest.head?.any isAsciiBlank then none
    let (title, rest) ← title? (dropBlanksWithinLines rest)
    return ({ url, title }, ← afterTarget? rest)

/-- The target that the definition of a label gives. -/
def definedTarget? (references : References) (label : Text) : Option LinkTarget :=
  (references.lookup (labelKey label)).map fun destination =>
    { url := destination.url, title := destination.title, isDefined := true }

/-- The target of a link by reference with the given text, read after its brackets, and what follows
it. The label follows in brackets of its own, or it is the text. -/
def referenceTarget? (references : References) (text after : Text) : Option (LinkTarget × Text) :=
  let own (rest : Text) : Option (LinkTarget × Text) :=
    if isLabel text then (definedTarget? references text).map (·, rest) else none
  match after with
  | '[' :: rest =>
    match label? rest with
    | some (label, rest) =>
      if label.isEmpty then own rest else (definedTarget? references label).map (·, rest)
    | none => own after
  | _ => own after

/-- The target of a link with the given text, read after its brackets, and what follows it. -/
def linkTarget? (references : References) (text after : Text) : Option (LinkTarget × Text) :=
  let given := match after with
    | '(' :: rest => inlineTarget? rest
    | _ => none
  match given with
  | some found => some found
  | none => referenceTarget? references text after

/-! ## Addresses -/

/-- An address between angle brackets that starts with a scheme. -/
def isUrlAddress (t : Text) : Bool :=
  let scheme := t.takeWhile fun c => c.isAlphanum || c == '.' || c == '+' || c == '-'
  match scheme, t.drop scheme.length with
  | c :: more, ':' :: rest =>
    c.isAlpha && 1 ≤ more.length && more.length ≤ 31
      && rest.all fun d => d.toNat > 32 && d != '<' && d != '>'
  | _, _ => false

/-- Whether a text is a part of a host name between full stops. -/
def isHostPart (t : Text) : Bool :=
  !t.isEmpty && t.length ≤ 63 && t.all (fun c => c.isAlphanum || c == '-')
    && t.head? != some '-' && t.getLast? != some '-'

/-- A mail address between angle brackets. -/
def isMailAddress (t : Text) : Bool :=
  let isNameChar (c : Char) : Bool :=
    c.isAlphanum || List.elem c (String.toList ".!#$%&'*+/=?^_\x60\x7b|\x7d~-")
  match splitFirst "@" t with
  | some (name, host) => !name.isEmpty && name.all isNameChar && (splitOn '.' host).all isHostPart
  | none => false

/-- What stands between an angle bracket, which has been read, and the next one that closes. -/
def betweenAngles? (t : Text) : Option (Text × Text) :=
  let inside := t.takeWhile (· != '>')
  match t.drop inside.length with
  | _ :: rest => some (inside, rest)
  | [] => none

/-- The address of the given kind between angle brackets, of which the first has been read. -/
def angleAddress? (isAddress : Text → Bool) (scheme : Text) (t : Text) :
    Option (Address × Text) := do
  let (inside, rest) ← betweenAngles? t
  if isAddress inside then
    let source := '<' :: inside ++ ['>']
    return ({ text := inside, url := Url.target (scheme ++ inside), source }, rest)
  none

/-- What cannot end an address that stands in running text. -/
def isTrailingPunctuation (c : Char) : Bool :=
  c == '.' || c == ',' || c == ':' || c == ';' || c == '"' || c == '\'' || c == ')' || c == ']'

/-- The web address that a text starts with. -/
def webAddress? (t : Text) : Option (Address × Text) := do
  let rest ← match dropPrefix? "http://" t with
    | some rest => some rest
    | none => dropPrefix? "https://" t
  let run := rest.takeWhile fun c => !isBlank c && c != '<'
  let kept := stripEndWhere isTrailingPunctuation run
  if kept.length < 2 then none
  let length := t.length - rest.length + kept.length
  let address := t.take length
  return ({ text := address, url := Url.target address, source := address }, t.drop length)

end MarkdownSite.Markdown
