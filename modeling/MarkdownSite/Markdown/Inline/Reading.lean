import MarkdownSite.Markdown.Footnote
import MarkdownSite.Markdown.Grammar
import MarkdownSite.Markdown.HtmlTag
import MarkdownSite.Markdown.Inline.Emphasis
import MarkdownSite.Markdown.Inline.Link
import MarkdownSite.Markdown.Inline.Span

/-!
# Reading of running text

Text is read from the left, by the first rule that applies. What stands in a link or between marks
that set it off is read by itself.
-/

namespace MarkdownSite.Markdown

open Text

/-- What running text is read with. -/
structure InlineContext where
  /-- The rules. -/
  rules : List InlineRule
  /-- Each line end breaks the line. -/
  hardBreaks : Bool
  /-- The definitions of link references. -/
  references : References
  /-- The keys of the footnotes. -/
  footnotes : List Text

/-- How far text has been read. -/
structure InlineState where
  /-- The items so far, last first. -/
  items : List Item := []
  /-- The text stands in a link. -/
  inLink : Bool := false

namespace InlineState

/-- The state after a node. -/
def push (state : InlineState) (node : Inline) : InlineState :=
  { state with items := .inline node :: state.items }

/-- The state after a character of plain text. -/
def pushChar (state : InlineState) (c : Char) : InlineState :=
  match state.items with
  | .plain reversed :: items => { state with items := .plain (c :: reversed) :: items }
  | items => { state with items := .plain [c] :: items }

/-- The state after an address, which is a link only outside of links. -/
def pushAddress (state : InlineState) (address : Address) : InlineState :=
  state.push (if state.inLink then .text address.source else .address address)

/-- The state after HTML; the tags of links say whether text stands in a link. -/
def pushHtml (state : InlineState) (html : Text) : InlineState :=
  let startsWithOneOf (starts : List Text) : Bool := starts.any fun start => startsWith start html
  let inLink :=
    if startsWithOneOf ["<a ", "<a>", "<A ", "<A>"] then true
    else if startsWithOneOf ["</a ", "</a>", "</A ", "</A>"] then false
    else state.inLink
  { state.push (.html html) with inLink }

/-- The nodes, once the text is read. -/
def finish (state : InlineState) : List Inline :=
  resolveEmphasis state.items

end InlineState

/-- Reads the text in a stretch that is set off: whether it stands in a link, and the text. -/
abbrev NestedReader := Bool → Text → List Inline

/-- A stretch between double marks, or the first mark as text if nothing closes it. -/
def readDouble (nested : NestedReader) (style : Style) (mark : Char) (state : InlineState)
    (t : Text) : Option (InlineState × Text) := do
  let inside ← dropPrefix? [mark, mark] t
  if !opensDouble mark inside then none
  match throughDouble mark inside with
  | some (inside, rest) => return (state.push (.styled style (nested state.inLink inside)), rest)
  | none => return (state.push (.text [mark]), mark :: inside)

/-- A stretch between single marks. -/
def readSingle (nested : NestedReader) (style : Style) (mark : Char) (state : InlineState)
    (t : Text) : Option (InlineState × Text) := do
  let (inside, rest) ← singleSpan? mark t
  return (state.push (.styled style (nested state.inLink inside)), rest)

/-- The state after an address between angle brackets, of which the first has been read. -/
def readAddress (state : InlineState) (t : Text) : Option (InlineState × Text) :=
  (angleAddress? isUrlAddress [] t).map fun (address, rest) => (state.pushAddress address, rest)

/-- The state after HTML, of which the first angle bracket has been read. -/
def readHtml (state : InlineState) (t : Text) : Option (InlineState × Text) :=
  (html? t).map fun (html, rest) => (state.pushHtml html, rest)

/-- The state after a code span, an address or HTML. -/
def readTight (state : InlineState) (t : Text) : Option (InlineState × Text) :=
  match t with
  | '`' :: _ => (codeSpan? t).map fun (node, rest) => (state.push node, rest)
  | '<' :: rest =>
    match readAddress state rest with
    | some read => some read
    | none => readHtml state rest
  | _ => none

/-- The state after the first code span, address or HTML that starts among the next `count`
characters, if it does not end among them; the text before it, which `skipped` starts, is plain. -/
def readAcross (state : InlineState) (skipped : Text) :
    (count : Nat) → Text → Option (InlineState × Text)
  | 0, _ => none
  | _, [] => none
  | count + 1, c :: t =>
    match readTight (state.push (.text skipped)) (c :: t) with
    | some (state, rest) => if rest.length + count ≤ t.length then some (state, rest) else none
    | none => readAcross state (skipped ++ [c]) count t

/-- The link or image whose content starts `t`, after the given marker. Code spans, addresses and
HTML bind tighter than brackets. -/
def readLink (context : InlineContext) (nested : NestedReader) (marker : Text) (isImage : Bool)
    (state : InlineState) (t : Text) : Option (InlineState × Text) := do
  let (source, after) ← throughBracket 0 t
  match readAcross state marker (source.length + 1) t with
  | some read => return read
  | none =>
    let (target, rest) ← linkTarget? context.references source after
    let children := nested (state.inLink || !isImage) source
    return (state.push (if isImage then .image target children else .link target children), rest)

/-- A link or an image; no link starts in a link. The first character of a marker that starts
neither is text of its own. -/
def readBracket (context : InlineContext) (nested : NestedReader) (state : InlineState) (t : Text) :
    Option (InlineState × Text) :=
  let isOpening (rest : Text) : Bool := rest.head? != some '^'
  match t with
  | '!' :: '[' :: rest =>
    if !isOpening rest then none
    else some ((readLink context nested "![" true state rest).getD
      (state.push (.text "!"), '[' :: rest))
  | '[' :: rest =>
    if !isOpening rest then none
    else
      let plain := (state.push (.text "["), rest)
      some (if state.inLink then plain
        else (readLink context nested "[" false state rest).getD plain)
  | _ => none

/-- What a rule makes of the text from here on, if it applies; `before` is the character before
it. -/
def InlineRule.read? (context : InlineContext) (nested : NestedReader) (before : Option Char)
    (state : InlineState) (t : Text) : InlineRule → Option (InlineState × Text)
  | backslashEscape =>
    match escapedRun t with
    | ([], _) => none
    | (run, rest) => some (state.push (.text run), rest)
  | codeSpan => (codeSpan? t).map fun (node, rest) => (state.push node, rest)
  | emphasis =>
    match t with
    | c :: _ =>
      if c = '*' ∨ c = '_' then
        let (length, rest) := leadingRun c t
        let run := DelimiterRun.between c length before rest.head?
        some ({ state with items := .delimiter run :: state.items }, rest)
      else none
    | [] => none
  | link => readBracket context nested state t
  | autolink => do readAddress state (← dropPrefix? "<" t)
  | mailAutolink => do
    let (address, rest) ← angleAddress? isMailAddress "mailto:" (← dropPrefix? "<" t)
    return (state.pushAddress address, rest)
  | rawHtml => do readHtml state (← dropPrefix? "<" t)
  | lineBreak => (afterLineBreak? context.hardBreaks t).map (state.push .lineBreak, ·)
  | softBreak => (afterSoftBreak? t).map (state.push .softBreak, ·)
  | strikethrough => readDouble nested .strikethrough '~' state t
  | mark => readDouble nested .mark '=' state t
  | insertion => readDouble nested .insertion '^' state t
  | superscript => readSingle nested .superscript '^' state t
  | subscript => readSingle nested .subscript '~' state t
  | bareUrl => (webAddress? t).map fun (address, rest) => (state.pushAddress address, rest)
  | footnote => do
    let (label, rest) ← footnoteLabel? t
    let key := labelKey label
    let node : Inline :=
      if context.footnotes.contains key then .footnote key
      else .text (t.take (t.length - rest.length))
    return (state.push node, rest)

/-- Reads the text from here on; `fuel` bounds the number of steps. -/
def readInlines (context : InlineContext) : (fuel : Nat) → (before : Option Char) → InlineState →
    Text → InlineState
  | 0, _, state, _ => state
  | _, _, state, [] => state
  | fuel + 1, before, state, c :: t =>
    let nested : NestedReader := fun inLink inside =>
      if inside.isEmpty then [.text []]
      else (readInlines context fuel none { inLink } inside).finish
    let lastBefore (rest : Text) : Option Char := (c :: t)[t.length - rest.length]?
    match context.rules.findSome? (·.read? context nested before state (c :: t)) with
    | some (state, rest) => readInlines context fuel (lastBefore rest) state rest
    | none => readInlines context fuel (some c) (state.pushChar c) t

/-- The nodes of a text. A text without characters is a node of its own. -/
def InlineContext.read (context : InlineContext) (t : Text) : List Inline :=
  if t.isEmpty then [.text []] else (readInlines context (t.length + 1) none {} t).finish

end MarkdownSite.Markdown
