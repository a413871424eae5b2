import MarkdownSite.Proofs.Text.Basic
import MarkdownSite.Proofs.Unicode.Casing
import MarkdownSite.Text.Slug

/-!
# The characters of slugs

A slug has hyphens, and otherwise no blank, no unsafe punctuation and no control character. The
separator replaces all of them before the letter case changes, and no change of case brings one of
them back: that is a property of the case tables, checked row by row.
-/

namespace MarkdownSite.Text

open Unicode

/-- The characters of which slugs are made, hyphens apart. -/
def isSlugChar (c : Char) : Bool := !isSlugBreak c && !isControl c

/-- The code points between those of the breaks. -/
def slugCharRanges : List (Nat × Nat) :=
  [(0x30, 0x39), (0x41, 0x5A), (0x61, 0x7A), (0x7F, 0x84), (0x86, 0x9F), (0xA1, 0x167F),
    (0x1681, 0x1FFF), (0x200B, 0x2027), (0x202A, 0x202E), (0x2030, 0x205E), (0x2060, 0x2FFF),
    (0x3001, 0xD7FF), (0xE000, 0x10FFFF)]

/-- A character between the breaks is a slug character. -/
theorem isSlugChar_of_inRanges {c : Char} (inside : inRanges slugCharRanges c = true) :
    isSlugChar c = true := by
  have punctuation : isUnsafePunctuation c = false := by
    have apart : ("~`!@#$%^&*()-_+=[]\x7b\x7d|\\;:\"'<>,.?/" : Text).all
        (!inRanges slugCharRanges ·) = true := by decide +kernel
    rw [isUnsafePunctuation, List.contains_eq_mem, decide_eq_false_iff_not]
    intro member
    have outside := List.all_eq_true.mp apart c member
    rw [inside] at outside
    cases outside
  simp only [inRanges, slugCharRanges, List.any_cons, List.any_nil, Bool.or_false,
    Bool.or_eq_true, Bool.and_eq_true, decide_eq_true_eq] at inside
  have blank : isBlank c = false := by
    simp only [isBlank, Bool.or_eq_false_iff, Bool.and_eq_false_iff, decide_eq_false_iff_not,
      beq_eq_false_iff_ne]
    omega
  simp only [isSlugChar, isSlugBreak, blank, punctuation, isControl, Bool.or_self, Bool.not_false,
    Bool.true_and, Bool.not_eq_eq_eq_not, Bool.not_true, decide_eq_false_iff_not]
  omega

end MarkdownSite.Text

/-! ## Letter case -/

namespace MarkdownSite.Unicode

open Text

/-- Whether what a row maps lands between two breaks. Rows are consulted beyond ASCII only. -/
def CaseRange.avoidsBreaks (row : CaseRange) : Bool :=
  row.last < 128 || slugCharRanges.any fun (first, last) =>
    (first : Int) ≤ (max row.first 128 : Nat) + row.delta && (row.last : Int) + row.delta ≤ last

/-- No row of the case tables maps a character to a break. -/
theorem rows_avoid_breaks :
    (∀ row ∈ lowerRanges, row.avoidsBreaks = true) ∧
      ∀ row ∈ upperRanges, row.avoidsBreaks = true := by
  decide +kernel

/-- No character of an expansion is a break. -/
theorem expansions_avoid_breaks :
    (∀ entry ∈ lowerExpansions, ∀ code ∈ entry.2,
        inRanges slugCharRanges (Char.ofNat code) = true) ∧
      ∀ entry ∈ upperExpansions, ∀ code ∈ entry.2,
        inRanges slugCharRanges (Char.ofNat code) = true := by
  decide +kernel

/-- ASCII letters change their case among slug characters. -/
theorem ascii_case_slugChar {c : Char} (ascii : c.toNat < 128) (slug : isSlugChar c = true) :
    isSlugChar c.toLower = true ∧ isSlugChar c.toUpper = true := by
  revert slug
  exact of_toNat_lt ascii (by decide +kernel)

/-- A case mapping whose tables avoid breaks makes slug characters of a slug character beyond
ASCII. -/
theorem mapCase_slugChar {expansions : List (Nat × List Nat)} {ranges : List CaseRange}
    (rows : ∀ row ∈ ranges, row.avoidsBreaks = true)
    (listed : ∀ entry ∈ expansions, ∀ code ∈ entry.2,
      inRanges slugCharRanges (Char.ofNat code) = true)
    {c : Char} (wide : ¬c.toNat < 128) (slug : isSlugChar c = true) :
    ∀ d ∈ mapCase expansions ranges c, isSlugChar d = true := by
  have scalars : ∀ range ∈ slugCharRanges,
      range.2 < 0xD800 ∨ 0xDFFF < range.1 ∧ range.2 < 0x110000 := by decide
  intro d member
  rcases mapCase_cases scalars rows listed wide d member with rfl | inside
  · exact slug
  · exact isSlugChar_of_inRanges inside

/-- The lower case of a slug character is made of slug characters. -/
theorem lowerChar_slugChar {c : Char} (slug : isSlugChar c = true) :
    ∀ d ∈ lowerChar c, isSlugChar d = true := by
  unfold lowerChar
  split
  · rename_i ascii
    intro d member
    rw [List.mem_singleton.mp member]
    exact (ascii_case_slugChar ascii slug).1
  · rename_i wide
    exact mapCase_slugChar rows_avoid_breaks.1 expansions_avoid_breaks.1 wide slug

/-- The upper case of a slug character is made of slug characters. -/
theorem upperChar_slugChar {c : Char} (slug : isSlugChar c = true) :
    ∀ d ∈ upperChar c, isSlugChar d = true := by
  unfold upperChar
  split
  · rename_i ascii
    intro d member
    rw [List.mem_singleton.mp member]
    exact (ascii_case_slugChar ascii slug).2
  · rename_i wide
    exact mapCase_slugChar rows_avoid_breaks.2 expansions_avoid_breaks.2 wide slug

end MarkdownSite.Unicode

namespace MarkdownSite.Text

open Unicode

/-! ## Slugs -/

/-- A hyphen, or a character that no separator replaces. -/
def InSlug (c : Char) : Prop := c = '-' ∨ isSlugChar c = true

/-- No change of letter case leaves the characters of slugs. -/
theorem inSlug_apply {transform : CaseTransform} {t : Text} (inside : ∀ c ∈ t, InSlug c) :
    ∀ d ∈ transform.apply t, InSlug d := by
  intro d member
  cases transform with
  | none => exact inside d member
  | lower =>
    rcases mem_lowerFrom member with ⟨c, source, mapped⟩ | rfl | rfl
    · rcases inside c source with rfl | slug
      · exact .inl (List.mem_singleton.mp mapped)
      · exact .inr (lowerChar_slugChar slug d mapped)
    · exact .inr (by decide +kernel)
    · exact .inr (by decide +kernel)
  | upper =>
    obtain ⟨c, source, mapped⟩ := List.mem_flatMap.mp member
    rcases inside c source with rfl | slug
    · exact .inl (List.mem_singleton.mp mapped)
    · exact .inr (upperChar_slugChar slug d mapped)

/-- Where runs are replaced, a character is one of a replacement or one outside the runs. -/
theorem mem_replaceRunsFrom {p : Char → Bool} {f : Text → Text} {d : Char} {run t : Text}
    (member : d ∈ replaceRunsFrom p f run t) :
    (∃ replaced, d ∈ f replaced) ∨ (d ∈ t ∧ p d = false) := by
  induction t generalizing run with
  | nil =>
    simp only [replaceRunsFrom] at member
    split at member
    · cases member
    · exact .inl ⟨_, member⟩
  | cons c t ih =>
    simp only [replaceRunsFrom] at member
    by_cases breaks : p c = true
    · rw [if_pos breaks] at member
      rcases ih member with replaced | ⟨kept, outside⟩
      · exact .inl replaced
      · exact .inr ⟨List.mem_cons_of_mem _ kept, outside⟩
    · rw [if_neg breaks, List.mem_append, List.mem_cons] at member
      rcases member with written | rfl | later
      · split at written
        · cases written
        · exact .inl ⟨_, written⟩
      · exact .inr ⟨List.mem_cons_self, by simpa using breaks⟩
      · rcases ih later with replaced | ⟨kept, outside⟩
        · exact .inl replaced
        · exact .inr ⟨List.mem_cons_of_mem _ kept, outside⟩

/-- What follows leading copies of a separator is the end of the text. -/
theorem leadingCopies_suffix (sep : Text) (fuel : Nat) (t : Text) :
    (leadingCopies sep fuel t).2 <:+ t := by
  induction fuel generalizing t with
  | zero => exact List.suffix_refl t
  | succ fuel ih =>
    simp only [leadingCopies]
    cases dropped : dropPrefix? sep t with
    | none => exact List.suffix_refl t
    | some rest =>
      have cut := dropPrefix?_eq_some_iff.mp dropped
      simp only
      exact (ih rest).trans (cut ▸ List.suffix_append sep rest)

/-- Where copies of a separator are collapsed, a character is one of a replacement or stays. -/
theorem mem_collapseCopies {sep : Text} {f : Text → Text} {fuel : Nat} {d : Char} {t : Text}
    (member : d ∈ collapseCopies sep f fuel t) : (∃ replaced, d ∈ f replaced) ∨ d ∈ t := by
  induction fuel generalizing t with
  | zero => exact .inr member
  | succ fuel ih =>
    cases t with
    | nil => exact .inr member
    | cons c t =>
      have suffix := leadingCopies_suffix sep (fuel + 1) (c :: t)
      simp only [collapseCopies] at member
      split at member
      · rcases List.mem_append.mp member with written | later
        · exact .inl ⟨_, written⟩
        · exact (ih later).imp_right fun inside => suffix.subset inside
      · rcases List.mem_cons.mp member with rfl | later
        · exact .inr List.mem_cons_self
        · exact (ih later).imp_right (List.mem_cons_of_mem _)

/-- Trimming copies of a separator adds no character. -/
theorem mem_of_mem_trimCopies {sep : Text} {d : Char} {t : Text} (member : d ∈ trimCopies sep t) :
    d ∈ t := by
  simp only [trimCopies, List.mem_reverse] at member
  have back := (leadingCopies_suffix _ _ _).subset member
  rw [List.mem_reverse] at back
  exact (leadingCopies_suffix _ _ _).subset back

/-- **A slug has hyphens and slug characters only.** -/
theorem inSlug_of_mem_slug {transform : CaseTransform} {t : Text} :
    ∀ c ∈ slug transform t, InSlug c := by
  have hyphen : ∀ (run : Text) (d : Char), d ∈ fillTemplate [.text "-"] run → d = '-' := by
    intro run d member
    simpa [fillTemplate] using member
  apply inSlug_apply
  intro c member
  rw [if_neg (by decide)] at member
  rcases mem_collapseCopies (mem_of_mem_trimCopies member) with ⟨run, written⟩ | inside
  · exact .inl (hyphen run c written)
  · rcases mem_replaceRunsFrom inside with ⟨run, written⟩ | ⟨kept, outside⟩
    · exact .inl (hyphen run c written)
    · have visible := (List.mem_filter.mp kept).2
      exact .inr (by rw [isSlugChar, outside, visible]; rfl)

end MarkdownSite.Text
