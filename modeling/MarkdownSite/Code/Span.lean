import MarkdownSite.Text.Escape

/-!
# Highlighted code

What highlights code writes it as text and spans. Here code is cut into tokens of classes, and each
run of one class on a line becomes a `span` with the short name of the class; plain code and line
ends stand outside of spans.
-/

namespace MarkdownSite.Code

/-- Whether a character neither ends a value in double quotes nor starts or ends a tag. -/
def isUnmarked (c : Char) : Bool := !(c == '"' || c == '<' || c == '>')

/-- HTML of text and of spans with a class, one in the other or one after another. -/
inductive IsSpanned : Text → Prop where
  /-- Nothing. -/
  | nil : IsSpanned []
  /-- Text in front. -/
  | text {t rest : Text} (opens : '<' ∉ t) (closes : '>' ∉ t) (after : IsSpanned rest) :
    IsSpanned (t ++ rest)
  /-- A span in front. -/
  | span {className inside rest : Text} (unmarked : className.all isUnmarked = true)
    (within : IsSpanned inside) (after : IsSpanned rest) :
    IsSpanned ("<span class=\"" ++ className ++ "\">" ++ inside ++ "</span>" ++ rest)

/-- What highlights code in the languages that it knows. -/
structure Highlighter where
  /-- What it writes for code in a language, if it knows the language. -/
  write? : Text → Option (Text → Text)
  /-- The markup that it writes is spans with a class. -/
  writes_spans : ∀ {language write}, write? language = some write → ∀ code, IsSpanned (write code)

/-- The class of a token of code. -/
inductive TokenClass where
  | plain
  | blank
  | punctuation
  | key
  | string
  | integer
  | decimal
  | word
  | lineComment
  | blockComment
  | wrong
  | heading
  | subheading
  | changed
  | inserted
  | deleted
  deriving DecidableEq, Repr

/-- The short name of a class; plain code has none. -/
def TokenClass.name : TokenClass → Text
  | plain => ""
  | blank => "w"
  | punctuation => "p"
  | key => "nt"
  | string => "s2"
  | integer => "mi"
  | decimal => "mf"
  | word => "kc"
  | lineComment => "c1"
  | blockComment => "cm"
  | wrong => "err"
  | heading => "gh"
  | subheading => "gu"
  | changed => "gs"
  | inserted => "gi"
  | deleted => "gd"

/-- A token of code. -/
structure Token where
  /-- Its class. -/
  kind : TokenClass
  /-- The code it covers. -/
  code : Text
  deriving DecidableEq, Repr

/-- A character of code with the class of its token. -/
abbrev Marked := List (TokenClass × Char)

/-- The characters of tokens with their classes. -/
def markAll (tokens : List Token) : Marked :=
  tokens.flatMap fun token => token.code.map (token.kind, ·)

/-- What opens a run of a class. -/
def openSpan (kind : TokenClass) : Text :=
  if kind = .plain then [] else "<span class=\"" ++ kind.name ++ "\">"

/-- What closes a run of a class. -/
def closeSpan (kind : TokenClass) : Text := if kind = .plain then [] else "</span>"

/-- Writes characters after a run of class `current` that is still open, if there is one. -/
def writeSpans (current : Option TokenClass) : Marked → Text
  | [] =>
    match current with
    | some kind => closeSpan kind ++ ['\n']
    | none => []
  | (kind, c) :: rest =>
    if c = '\n' then (current.map closeSpan).getD [] ++ '\n' :: writeSpans none rest
    else if current = some kind then Text.escapeContentChar c ++ writeSpans current rest
    else
      (current.map closeSpan).getD [] ++ openSpan kind ++ Text.escapeContentChar c
        ++ writeSpans (some kind) rest

/-- The tokens as HTML; the last line ends with a line feed. -/
def spans (tokens : List Token) : Text := writeSpans none (markAll tokens)

/-! ## What is written for tokens -/

namespace IsSpanned

/-- Text and spans may stand one after another. -/
theorem append {s t : Text} (first : IsSpanned s) (second : IsSpanned t) : IsSpanned (s ++ t) := by
  induction first with
  | nil => exact second
  | text opens closes _ ih =>
    rw [List.append_assoc]
    exact text opens closes ih
  | span unmarked within _ _ ih =>
    rw [List.append_assoc]
    exact span unmarked within ih

/-- A line end is text. -/
theorem lineEnd : IsSpanned ['\n'] := text (t := ['\n']) (by decide) (by decide) nil

/-- An escaped character is text. -/
theorem escaped (c : Char) : IsSpanned (Text.escapeContentChar c) := by
  have plain : '<' ∉ Text.escapeContentChar c ∧ '>' ∉ Text.escapeContentChar c := by
    unfold Text.escapeContentChar
    split
    · decide
    split
    · decide
    split
    · decide
    · rename_i opening closing
      simp [Ne.symm opening, Ne.symm closing]
  have alone := text plain.1 plain.2 nil
  rwa [List.append_nil] at alone

/-- A run of a class is text and spans if what is in it is. -/
theorem run (kind : TokenClass) {inside : Text} (within : IsSpanned inside) :
    IsSpanned (openSpan kind ++ inside ++ closeSpan kind) := by
  by_cases plain : kind = .plain
  · simpa [openSpan, closeSpan, plain] using within
  · have unmarked : kind.name.all isUnmarked = true := by cases kind <;> decide
    have alone := span unmarked within nil
    simpa only [openSpan, closeSpan, if_neg plain, List.append_assoc, List.append_nil] using alone

end IsSpanned

/-- What is written after a run that is open ends it, with text and spans before and after. -/
theorem exists_writeSpans (current : Option TokenClass) (code : Marked) :
    ∃ inside rest, writeSpans current code = inside ++ (current.map closeSpan).getD [] ++ rest ∧
      IsSpanned inside ∧ IsSpanned rest := by
  induction code generalizing current with
  | nil =>
    cases current with
    | none => exact ⟨[], [], rfl, .nil, .nil⟩
    | some kind => exact ⟨[], ['\n'], rfl, .nil, .lineEnd⟩
  | cons first code ih =>
    obtain ⟨kind, c⟩ := first
    rw [writeSpans]
    split
    · obtain ⟨inside, rest, written, within, after⟩ := ih none
      refine ⟨[], '\n' :: writeSpans none code, rfl, .nil, ?_⟩
      rw [written]
      exact IsSpanned.lineEnd.append ((within.append .nil).append after)
    obtain ⟨inside, rest, written, within, after⟩ := ih (some kind)
    split
    · rename_i same
      refine ⟨Text.escapeContentChar c ++ inside, rest, ?_, (IsSpanned.escaped c).append within,
        after⟩
      rw [same, written]
      simp only [List.append_assoc]
    · have run := (IsSpanned.run kind ((IsSpanned.escaped c).append within)).append after
      refine ⟨[], _, ?_, .nil, run⟩
      rw [written]
      simp only [Option.map_some, Option.getD_some, List.append_assoc, List.nil_append]

/-- Tokens are written as text and spans. -/
theorem isSpanned_spans (tokens : List Token) : IsSpanned (spans tokens) := by
  obtain ⟨inside, rest, written, within, after⟩ := exists_writeSpans none (markAll tokens)
  rw [spans, written]
  exact (within.append .nil).append after

end MarkdownSite.Code
