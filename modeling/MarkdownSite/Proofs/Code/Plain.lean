import Mathlib.Data.List.Forall2
import MarkdownSite.Node.Block
import MarkdownSite.Proofs.Text.Pieces
import MarkdownSite.Proofs.Text.Escape

/-!
# Code that is not highlighted

A code block whose language is not named, or not known to what highlights code, or that is not to be
highlighted, is its code escaped. A browser reads of it the code without the indentation that the
lines share and without the line feeds at its end: lines of spaces and tabs have no say about the
indentation, and nothing of them stays. The name of the language stays in the quotes of its
attribute.
-/

namespace MarkdownSite

open Text

namespace Code

/-! ## Lines -/

/-- What is left of a line without a margin: nothing of a line of spaces and tabs, and what follows
the margin of any other. -/
def LosesMargin (margin line rest : Text) : Prop :=
  if line.all isSpaceTab then rest = [] else line = margin ++ rest

/-- Code without its margin, the widest indentation that its lines share. -/
structure IsDedented (margin code shown : Text) : Prop where
  /-- The margin has spaces and tabs only. -/
  blank : ∀ c ∈ margin, isSpaceTab c = true
  /-- Each line is shown without the margin. -/
  lines : List.Forall₂ (LosesMargin margin) (splitOn '\n' code) (splitOn '\n' shown)
  /-- No indentation that the lines share goes beyond the margin. -/
  widest : ∀ indent, (∀ c ∈ indent, isSpaceTab c = true) →
    (∃ line ∈ splitOn '\n' code, line.all isSpaceTab = false) →
    (∀ line ∈ splitOn '\n' code, line.all isSpaceTab = false → indent <+: line) → indent <+: margin

/-! ## Shared indentation -/

/-- What two texts have in common at their start is the longest text that both start with. -/
theorem isPrefix_commonPrefix_iff {u s t : Text} :
    u <+: commonPrefix s t ↔ u <+: s ∧ u <+: t := by
  induction s generalizing u t with
  | nil =>
    rw [commonPrefix, List.prefix_nil]
    · exact ⟨fun empty => by simp [empty], And.left⟩
    · simp
  | cons a s ih =>
    cases t with
    | nil =>
      rw [commonPrefix, List.prefix_nil]
      · exact ⟨fun empty => by simp [empty], And.right⟩
      · simp
    | cons b t =>
      rw [commonPrefix]
      cases u with
      | nil => simp
      | cons c u =>
        split
        · rename_i same
          rw [same, List.cons_prefix_cons, List.cons_prefix_cons, List.cons_prefix_cons, ih]
          exact and_and_left
        · rename_i differ
          rw [List.cons_prefix_cons, List.cons_prefix_cons]
          refine ⟨fun none => absurd (List.prefix_nil.mp none) (List.cons_ne_nil _ _), fun both => ?_⟩
          exact absurd (both.1.1.symm.trans both.2.1) differ

/-- What many texts have in common at their start is the longest text that all start with. -/
theorem isPrefix_foldl_commonPrefix_iff {u first : Text} {rest : List Text} :
    u <+: rest.foldl commonPrefix first ↔ ∀ t ∈ first :: rest, u <+: t := by
  induction rest generalizing first with
  | nil => simp
  | cons next rest ih =>
    rw [List.foldl_cons, ih, List.forall_mem_cons, List.forall_mem_cons, List.forall_mem_cons,
      isPrefix_commonPrefix_iff, and_assoc]

/-- The indentation of a line is its longest beginning of spaces and tabs. -/
theorem isPrefix_indentOf_iff {u line : Text} :
    u <+: indentOf line ↔ u <+: line ∧ ∀ c ∈ u, isSpaceTab c = true := by
  have inside : ∀ c ∈ indentOf line, isSpaceTab c = true := fun c member =>
    List.all_eq_true.mp List.all_takeWhile c member
  constructor
  · intro start
    exact ⟨start.trans (List.takeWhile_prefix _), fun c member => inside c (start.mem member)⟩
  · rintro ⟨⟨rest, rfl⟩, blank⟩
    rw [indentOf, List.takeWhile_append_of_pos blank]
    exact List.prefix_append _ _

/-- The indentation that lines share has spaces and tabs only. -/
theorem isSpaceTab_of_mem_sharedIndent {lines : List Text} :
    ∀ c ∈ sharedIndent lines, isSpaceTab c = true := by
  intro c member
  unfold sharedIndent at member
  split at member
  · cases member
  · rename_i first rest indents
    have start : rest.foldl commonPrefix first <+: first :=
      isPrefix_foldl_commonPrefix_iff.mp List.prefix_rfl first List.mem_cons_self
    have listed : first ∈ (lines.filter fun line => !line.isEmpty).map indentOf := by
      rw [indents]
      exact List.mem_cons_self
    obtain ⟨line, -, rfl⟩ := List.mem_map.mp listed
    exact (isPrefix_indentOf_iff.mp start).2 c member

/-- The indentation that lines share is the longest text of spaces and tabs that every nonempty one
starts with, if there is one that is not empty. -/
theorem isPrefix_sharedIndent_iff {u : Text} {lines : List Text}
    (present : ∃ line ∈ lines, line ≠ []) :
    u <+: sharedIndent lines ↔
      (∀ line ∈ lines, line ≠ [] → u <+: line) ∧ ∀ c ∈ u, isSpaceTab c = true := by
  have shared : u <+: sharedIndent lines ↔
      ∀ indent ∈ (lines.filter fun line => !line.isEmpty).map indentOf, u <+: indent := by
    unfold sharedIndent
    split
    · rename_i none
      obtain ⟨line, listed, filled⟩ := present
      rw [List.map_eq_nil_iff, List.filter_eq_nil_iff] at none
      exact absurd (none line listed) (by simp [filled])
    · rename_i first rest indents
      rw [indents]
      exact isPrefix_foldl_commonPrefix_iff
  rw [shared]
  simp only [List.mem_map, List.mem_filter, Bool.not_eq_true', List.isEmpty_eq_false_iff,
    forall_exists_index, and_imp]
  constructor
  · intro each
    have own {line : Text} (listed : line ∈ lines) (filled : line ≠ []) :=
      isPrefix_indentOf_iff.mp (each _ line listed filled rfl)
    obtain ⟨line, listed, filled⟩ := present
    exact ⟨fun other member nonempty => (own member nonempty).1, (own listed filled).2⟩
  · rintro ⟨each, blank⟩ indent line listed filled rfl
    exact isPrefix_indentOf_iff.mpr ⟨each line listed filled, blank⟩

/-! ## Code without its margin -/

/-- A line of spaces and tabs is emptied, and any other stays. -/
theorem emptyIfBlank_ne_nil_iff {line : Text} :
    emptyIfBlank line ≠ [] ↔ line.all isSpaceTab = false := by
  unfold emptyIfBlank
  split
  · rename_i blank
    simp [blank]
  · rename_i other
    refine iff_of_true ?_ (Bool.eq_false_iff.mpr other)
    rintro rfl
    exact other rfl

/-- A line that is not emptied stays as it is. -/
theorem emptyIfBlank_of_filled {line : Text} (filled : line.all isSpaceTab = false) :
    emptyIfBlank line = line := by
  simp [emptyIfBlank, filled]

/-- The margin of code. -/
def marginOf (code : Text) : Text := sharedIndent ((splitOn '\n' code).map emptyIfBlank)

/-- The margin is the longest text of spaces and tabs that every line of more than those starts
with, if there is such a line. -/
theorem isPrefix_marginOf_iff {u code : Text}
    (present : ∃ line ∈ splitOn '\n' code, line.all isSpaceTab = false) :
    u <+: marginOf code ↔
      (∀ line ∈ splitOn '\n' code, line.all isSpaceTab = false → u <+: line) ∧
        ∀ c ∈ u, isSpaceTab c = true := by
  have nonempty : ∃ line ∈ (splitOn '\n' code).map emptyIfBlank, line ≠ [] := by
    obtain ⟨line, listed, filled⟩ := present
    exact ⟨_, List.mem_map_of_mem listed, emptyIfBlank_ne_nil_iff.mpr filled⟩
  rw [marginOf, isPrefix_sharedIndent_iff nonempty]
  refine and_congr_left fun _ => ?_
  rw [List.forall_mem_map]
  refine forall₂_congr fun line _ => ?_
  rw [emptyIfBlank_ne_nil_iff]
  exact forall_congr' fun filled => by rw [emptyIfBlank_of_filled filled]

/-- A line as it is shown: emptied if it has spaces and tabs only, and without the margin. -/
def shownLine (margin line : Text) : Text :=
  (dropPrefix? margin (emptyIfBlank line)).getD (emptyIfBlank line)

/-- Dedented code has the lines as they are shown. -/
theorem dedent_eq (code : Text) :
    dedent code = join ['\n'] ((splitOn '\n' code).map (shownLine (marginOf code))) := by
  unfold dedent
  dsimp only
  rw [List.map_map]
  rfl

/-- A line of code is shown without the margin. -/
theorem losesMargin_shownLine {code line : Text} (listed : line ∈ splitOn '\n' code) :
    LosesMargin (marginOf code) line (shownLine (marginOf code) line) := by
  unfold LosesMargin shownLine
  cases blank : line.all isSpaceTab with
  | true =>
    have emptied : emptyIfBlank line = [] := by simp [emptyIfBlank, blank]
    rw [emptied]
    cases margin : marginOf code <;> simp [dropPrefix?]
  | false =>
    obtain ⟨rest, joined⟩ :=
      ((isPrefix_marginOf_iff ⟨line, listed, blank⟩).mp List.prefix_rfl).1 line listed blank
    have dropped : dropPrefix? (marginOf code) line = some rest :=
      dropPrefix?_eq_some_iff.mpr joined.symm
    simp [emptyIfBlank_of_filled blank, dropped, joined]

/-- What is shown of a line has no line feed. -/
theorem LosesMargin.lineFeed_not_mem {margin line rest : Text} (loses : LosesMargin margin line rest)
    (single : '\n' ∉ line) : '\n' ∉ rest := by
  unfold LosesMargin at loses
  split at loses
  · rw [loses]
    exact List.not_mem_nil
  · rw [loses, List.mem_append, not_or] at single
    exact single.2

/-- **Code is dedented by the widest indentation that its lines share.** -/
theorem isDedented_dedent (code : Text) : IsDedented (marginOf code) code (dedent code) where
  blank := isSpaceTab_of_mem_sharedIndent
  lines := by
    have present : (splitOn '\n' code).map (shownLine (marginOf code)) ≠ [] := by
      rw [ne_eq, List.map_eq_nil_iff]
      exact splitWhere_ne_nil _ code
    have single : ∀ line ∈ (splitOn '\n' code).map (shownLine (marginOf code)), '\n' ∉ line :=
      List.forall_mem_map.mpr fun line listed =>
        (losesMargin_shownLine listed).lineFeed_not_mem (not_mem_of_mem_splitOn listed)
    rw [dedent_eq, splitOn_join present single, List.forall₂_map_right_iff, List.forall₂_same]
    exact fun line listed => losesMargin_shownLine listed
  widest indent blank present shared := (isPrefix_marginOf_iff present).mpr ⟨shared, blank⟩

/-! ## The body of a block -/

/-- Code is not highlighted where highlighting is off, or no language is named, or one that the
highlighter does not know. -/
def ShowsPlain (highlighter : Highlighter) (language : Option Text) (enabled : Bool) : Prop :=
  enabled = false ∨ language = none ∨
    ∃ name, language = some name ∧ highlighter.write? name = none

/-- Code that is not highlighted is escaped. -/
theorem run_highlight_plain {highlighter : Highlighter} {language : Option Text} {enabled : Bool}
    (plain : ShowsPlain highlighter language enabled) (code : Text) (records : List LogRecord) :
    ((highlight highlighter code language enabled).run records).1 =
      escapeContent (trimCode code) := by
  unfold highlight
  dsimp only
  split
  · rfl
  · rfl
  · rename_i name _
    cases enabled with
    | false => rfl
    | true =>
      rcases plain with off | unnamed | ⟨other, same, unknown⟩
      · cases off
      · cases unnamed
      · cases same
        simp only [Bool.not_true, Bool.false_eq_true, ↓reduceIte, unknown]
        rfl

end Code

/-! ## Code blocks -/

/-- A code block is its body in an element whose class is the language, where one is named. -/
theorem run_renderCodeBlock_eq (page : Page) (code info : Text) (records : List LogRecord) :
    ((renderCodeBlock page code info).run records).1 = "<pre><code" ++
      ((Code.languageOf info).elim [] fun name =>
        attributeHtml "class" (renormalize (page.options.langPrefix ++ name))) ++ ">" ++
      ((Code.highlight page.highlighter code (Code.languageOf info)
        page.options.highlight).run records).1 ++ "</code></pre>" := by
  unfold renderCodeBlock
  cases Code.languageOf info with
  | none => rfl
  | some name => rfl

/-- **A code block that is not highlighted shows its code**, whatever languages the highlighter
knows. Its body starts and ends no tag, and a browser reads it as the dedented code without the line
feeds at the end. The class of a block whose language is named stays in its quotes, and is read as
the name after what options put before it. -/
theorem codeBlock_shows_code {page : Page} {info : Text}
    (plain : Code.ShowsPlain page.highlighter (Code.languageOf info) page.options.highlight)
    (code : Text) (records : List LogRecord) :
    let html := ((renderCodeBlock page code info).run records).1
    ∃ body, (∃ margin, Code.IsDedented margin code (Code.dedent code)) ∧
      decodeEntities body = stripEndWhere (· == '\n') (Code.dedent code) ∧
      '<' ∉ body ∧ '>' ∉ body ∧
      (Code.languageOf info = none → html = "<pre><code>" ++ body ++ "</code></pre>") ∧
      ∀ name, Code.languageOf info = some name → ∃ className, Unmarked className ∧
        decodeEntities className = decodeStrictEntities (page.options.langPrefix ++ name) ∧
        html = "<pre><code class=\"" ++ className ++ "\">" ++ body ++ "</code></pre>" := by
  intro html
  have inside := not_mem_escapeContent (Code.trimCode code)
  have whole : html = _ := run_renderCodeBlock_eq page code info records
  rw [Code.run_highlight_plain plain] at whole
  refine ⟨escapeContent (Code.trimCode code), ⟨_, Code.isDedented_dedent code⟩,
    decodeEntities_escapeContent _, inside.1, inside.2, fun unnamed => ?_, fun name named => ?_⟩
  · rw [whole, unnamed]
    simp
  · refine ⟨renormalize (page.options.langPrefix ++ name), unmarked_escapeMarkup _,
      decodeEntities_escapeMarkup _, ?_⟩
    rw [whole, named]
    simp [attributeHtml]

/-- A language that is not known, with marks in its name and before it, and code with a tag, a
reference and a line of blanks. -/
theorem codeBlock_shows_code_of_marks :
    let page : Page := { options := { langPrefix := "\">" } }
    let code : Text := "    <b>\n \t\n      &lt;\n\n"
    Code.ShowsPlain page.highlighter (Code.languageOf "x\"> y") page.options.highlight ∧
      ∃ body className, decodeEntities body = "<b>\n\n  &lt;" ∧ '<' ∉ body ∧ '>' ∉ body ∧
        Unmarked className ∧ decodeEntities className = "\">x\">" ∧
        ((renderCodeBlock page code "x\"> y").run []).1 =
          "<pre><code class=\"" ++ className ++ "\">" ++ body ++ "</code></pre>" := by
  intro page code
  have named : Code.languageOf "x\"> y" = some "x\">".toList := by decide
  have plain : Code.ShowsPlain page.highlighter (Code.languageOf "x\"> y") page.options.highlight :=
    .inr (.inr ⟨_, named, rfl⟩)
  obtain ⟨body, -, read, opened, closed, -, written⟩ := codeBlock_shows_code plain code []
  obtain ⟨className, unmarked, name, html⟩ := written _ named
  have dedented : stripEndWhere (· == '\n') (Code.dedent code) = "<b>\n\n  &lt;" := by decide
  have prefixed : decodeStrictEntities (page.options.langPrefix ++ "x\">") = "\">x\">" :=
    markdownReferences.decode_of_not_mem (by decide)
  exact ⟨plain, body, className, read.trans dedented, opened, closed, unmarked,
    name.trans prefixed, html⟩

end MarkdownSite
