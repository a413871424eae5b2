import MarkdownSite.Proofs.Text.Separator
import MarkdownSite.Proofs.Unicode.Canonical

/-!
# The accents of a slug

What making a slug does to neighbours: the characters that are replaced become separators, which are
collapsed and trimmed, so that a relation between neighbours that no separator breaks holds along
the slug if it holds along the text without its accents. Accents are removed one character of the
composed text at a time, and so the marks that compose with their letter go and the others stay.
-/

namespace MarkdownSite.Text

open Unicode

/-! ## Neighbours -/

section Neighbours

variable {R : Char → Char → Prop} {x : Char}

/-- A character that breaks no relation to what follows may be put before a text. -/
theorem isChain_cons_of_inert (after : ∀ c, R x c) {t : Text} :
    (x :: t).IsChain R ↔ t.IsChain R := by
  rw [List.isChain_cons]
  exact and_iff_right fun c _ => after c

/-- A character that breaks no relation to what follows may be dropped at the start of a text. -/
theorem isChain_dropWhile (after : ∀ c, R x c) (t : Text) :
    (t.dropWhile (· == x)).IsChain R ↔ t.IsChain R := by
  induction t with
  | nil => rfl
  | cons c t ih =>
    by_cases same : c = x
    · subst same
      rw [List.dropWhile_cons_of_pos (by simp), ih, isChain_cons_of_inert after]
    · rw [List.dropWhile_cons_of_neg (by simpa using same)]

/-- Dropping a character at both ends of a text keeps the relations within it. -/
theorem isChain_trimCopies (before : ∀ c, R c x) (after : ∀ c, R x c) (t : Text) :
    (trimCopies [x] t).IsChain R ↔ t.IsChain R := by
  rw [trimCopies_singleton, stripWhere, List.isChain_reverse, isChain_dropWhile before,
    List.isChain_reverse]
  exact isChain_dropWhile after t

/-- Collapsing the copies of a character keeps the relations. -/
theorem isChain_collapseCopies_iff (after : ∀ c, R x c) {fuel : Nat} {t : Text}
    (enough : t.length ≤ fuel) :
    (collapseCopies [x] (fun _ => [x]) fuel t).IsChain R ↔ t.IsChain R := by
  induction fuel generalizing t with
  | zero => rfl
  | succ fuel ih =>
    cases t with
    | nil => rfl
    | cons c t =>
      have bound : t.length ≤ fuel := Nat.le_of_succ_le_succ enough
      simp only [collapseCopies, leadingCopies_singleton enough]
      split
      · -- a run of copies: one of them stands before what follows the run
        rename_i copies
        have same : c = x := by
          by_contra other
          simp [other] at copies
        have shorter : (t.dropWhile (· == x)).length ≤ fuel :=
          (List.dropWhile_suffix _).length_le.trans bound
        rw [same, List.dropWhile_cons_of_pos (by simp), List.singleton_append,
          isChain_cons_of_inert after, isChain_cons_of_inert after, ih shorter,
          isChain_dropWhile after]
      · rw [List.isChain_cons, List.isChain_cons, head?_collapseCopies, ih bound]

section Runs

variable {p : Char → Bool}

/-- A text whose runs are replaced starts as before, but for a separator in place of a run. -/
theorem head?_replaceRunsFrom (run t : Text) :
    (replaceRunsFrom p (fun _ => [x]) run t).head? =
      if run.isEmpty then t.head?.map fun c => if p c = true then x else c else some x := by
  induction t generalizing run with
  | nil => cases run <;> rfl
  | cons c t ih =>
    rw [replaceRunsFrom]
    split
    · rename_i replaced
      rw [ih]
      cases run <;> simp [replaced]
    · rename_i kept
      cases run <;> simp [kept]

/-- Replacing runs of characters that break no relation by one of them keeps the relations. -/
theorem isChain_replaceRunsFrom (inert : ∀ c, p c = true → ∀ d, R c d ∧ R d c)
    (separator : p x = true) (run t : Text) :
    (replaceRunsFrom p (fun _ => [x]) run t).IsChain R ↔ t.IsChain R := by
  induction t generalizing run with
  | nil => cases run <;> simp [replaceRunsFrom]
  | cons c t ih =>
    rw [replaceRunsFrom]
    split
    · rename_i replaced
      rw [ih, isChain_cons_of_inert fun d => (inert c replaced d).1]
    · have opened : ((if run.isEmpty then [] else [x]) ++
          c :: replaceRunsFrom p (fun _ => [x]) [] t).IsChain R ↔
          (c :: replaceRunsFrom p (fun _ => [x]) [] t).IsChain R := by
        cases run with
        | nil => rfl
        | cons d run => exact isChain_cons_of_inert fun d => (inert x separator d).1
      -- a separator and the break in whose place it stands are related to all characters
      have next : (∀ d ∈ (replaceRunsFrom p (fun _ => [x]) [] t).head?, R c d) ↔
          ∀ d ∈ t.head?, R c d := by
        rw [head?_replaceRunsFrom]
        cases t with
        | nil => rfl
        | cons d t =>
          by_cases replaced : p d = true
          · simp [replaced, (inert d replaced c).2, (inert x separator c).2]
          · simp [replaced]
      rw [opened, List.isChain_cons, List.isChain_cons, ih, next]

end Runs

/-- **A relation in which separators, and what they stand for, are with every character holds along
a slug** exactly if it holds along the text that has lost its accents and its control characters. -/
theorem isChain_slug (inert : ∀ c, isSlugBreak c = true → ∀ d, R c d ∧ R d c) (t : Text) :
    (slug .none t).IsChain R ↔ ((removeAccents t).filter fun c => !isControl c).IsChain R := by
  have hyphen := inert '-' (by decide)
  have template : fillTemplate [.text "-"] = fun _ => ['-'] := rfl
  simp only [slug, slugWith, template, CaseTransform.apply]
  rw [show ("-" : Text) = ['-'] by decide, if_neg (by decide),
    isChain_trimCopies (fun c => (hyphen c).2) (fun c => (hyphen c).1),
    isChain_collapseCopies_iff (fun c => (hyphen c).1) (Nat.le_refl _)]
  exact isChain_replaceRunsFrom inert (by decide) [] _

end Neighbours

/-! ## Letters and marks -/

/-- Letters are in ASCII. -/
theorem toNat_lt_of_isAlpha {c : Char} (letter : c.isAlpha = true) : c.toNat < 128 := by
  have range := range_of_isAlpha letter
  omega

/-- Letters are written in slugs. -/
theorem isSlugChar_of_isAlpha {c : Char} (letter : c.isAlpha = true) : isSlugChar c = true := by
  have range := range_of_isAlpha letter
  apply isSlugChar_of_inRanges
  simp only [inRanges, slugCharRanges, List.any_cons, List.any_nil, Bool.or_false,
    Bool.or_eq_true, Bool.and_eq_true, decide_eq_true_eq]
  omega

/-- Nonspacing marks are written in slugs. -/
theorem isSlugChar_of_isNonspacing {c : Char} (mark : isNonspacing c = true) :
    isSlugChar c = true := by
  have within : ∀ range ∈ nonspacingRanges, ∃ wider ∈ slugCharRanges,
      wider.1 ≤ range.1 ∧ range.2 ≤ wider.2 := by decide +kernel
  simp only [isNonspacing, inRanges, Bool.and_eq_true, decide_eq_true_eq, List.any_eq_true] at mark
  obtain ⟨-, range, listed, least, most⟩ := mark
  obtain ⟨wider, found, before, after⟩ := within range listed
  apply isSlugChar_of_inRanges
  simp only [inRanges, List.any_eq_true, Bool.and_eq_true, decide_eq_true_eq]
  exact ⟨wider, found, before.trans least, most.trans after⟩

/-- What is written in slugs is not replaced by a separator. -/
theorem not_isSlugBreak {c : Char} (slug : isSlugChar c = true) : ¬isSlugBreak c = true := by
  rw [isSlugChar, Bool.and_eq_true, Bool.not_eq_true'] at slug
  rw [slug.1]
  exact Bool.false_ne_true

/-- A folded character is as it was, or the ASCII character with marks that it decomposes into. -/
theorem foldAccents_cases (c : Char) : foldAccents c = c ∨
    128 ≤ c.toNat ∧ (foldAccents c).toNat < 128 ∧
      ∃ mark marks, canonicalExpansion c = foldAccents c :: mark :: marks ∧
        ∀ d ∈ mark :: marks, isNonspacing d = true := by
  unfold foldAccents
  split
  · exact .inl rfl
  · rename_i wide
    cases canonicalExpansion c with
    | nil => exact .inl rfl
    | cons base marks =>
      cases marks with
      | nil => simp
      | cons mark marks =>
        simp only
        split
        · rename_i folds
          simp only [Bool.and_eq_true, decide_eq_true_eq, List.all_eq_true] at folds
          exact .inr ⟨by omega, folds.1.1, mark, marks, rfl, folds.2⟩
        · exact .inl rfl

/-- An ASCII letter, or a letter that decomposes into one and nonspacing marks on it. -/
def IsLatinLetter (c : Char) : Prop :=
  c.isAlpha = true ∨ ∃ base mark marks, canonicalExpansion c = base :: mark :: marks ∧
    base.isAlpha = true ∧ ∀ d ∈ mark :: marks, isNonspacing d = true

/-- The letters that fold to an ASCII letter are the Latin letters. -/
theorem isAlpha_foldAccents (c : Char) : (foldAccents c).isAlpha = true ↔ IsLatinLetter c := by
  constructor
  · intro letter
    rcases foldAccents_cases c with same | ⟨-, -, mark, marks, decomposed, all⟩
    · exact .inl (same ▸ letter)
    · exact .inr ⟨_, mark, marks, decomposed, letter, all⟩
  · rintro (letter | ⟨base, mark, marks, decomposed, letter, all⟩)
    · rwa [foldAccents, if_pos (toNat_lt_of_isAlpha letter)]
    · have wide : ¬c.toNat < 128 := by
        intro ascii
        rw [canonicalExpansion, if_pos (by omega)] at decomposed
        cases decomposed
      have folds : (decide (base.toNat < 128) && !(mark :: marks).isEmpty &&
          (mark :: marks).all isNonspacing) = true := by
        simpa using ⟨toNat_lt_of_isAlpha letter, by simpa using all⟩
      rw [foldAccents, if_neg wide, decomposed]
      simpa only [folds, if_true] using letter

/-- Folding leaves marks alone and makes none. -/
theorem isNonspacing_foldAccents (c : Char) : isNonspacing (foldAccents c) = isNonspacing c := by
  rcases foldAccents_cases c with same | ⟨-, ascii, mark, marks, decomposed, -⟩
  · rw [same]
  · have base : isNonspacing (foldAccents c) = false := by
      simp [isNonspacing, show ¬0x300 ≤ (foldAccents c).toNat by omega]
    rw [base, eq_comm, ← Bool.not_eq_true]
    intro mark
    obtain ⟨d, rest, expanded, far⟩ := canonicalExpansion_far (isFarFromAscii_of_nonspacing mark)
    rw [decomposed] at expanded
    cases expanded
    simp only [isFarFromAscii, Bool.and_eq_true, decide_eq_true_eq] at far
    omega

/-- Folding leaves control characters alone and makes none. -/
theorem isControl_foldAccents (c : Char) : isControl (foldAccents c) = isControl c := by
  rcases foldAccents_cases c with same | ⟨wide, -, mark, marks, decomposed, -⟩
  · rw [same]
  · obtain ⟨d, rest, expanded, visible⟩ := canonicalExpansion_visible (c := c) (by omega)
    rw [decomposed] at expanded
    cases expanded
    simp only [isControl, decide_eq_decide]
    omega

/-- No letter is followed by a nonspacing mark. -/
def Unaccented (letter : Char → Prop) (t : Text) : Prop :=
  t.IsChain fun c mark => ¬(letter c ∧ isNonspacing mark = true)

/-- **A slug has no accent after an ASCII letter exactly if the composed text has none left**: if in
that text, control characters aside, no nonspacing mark follows a Latin letter, with which it does
not compose. -/
theorem unaccented_slug_iff (t : Text) : Unaccented (·.isAlpha = true) (slug .none t) ↔
    Unaccented IsLatinLetter ((normalize canonical t).filter fun c => !isControl c) := by
  have inert : ∀ c, isSlugBreak c = true → ∀ d,
      ¬(c.isAlpha = true ∧ isNonspacing d = true) ∧
        ¬(d.isAlpha = true ∧ isNonspacing c = true) := by
    intro c replaced d
    refine ⟨fun both => ?_, fun both => ?_⟩
    · exact not_isSlugBreak (isSlugChar_of_isAlpha both.1) replaced
    · exact not_isSlugBreak (isSlugChar_of_isNonspacing both.2) replaced
  have visible : ((fun c => !isControl c) ∘ foldAccents) = fun c => !isControl c := by
    funext c
    rw [Function.comp_apply, isControl_foldAccents]
  rw [Unaccented, isChain_slug inert, removeAccents, List.filter_map, List.isChain_map]
  simp only [visible, isNonspacing_foldAccents, isAlpha_foldAccents]
  rfl

/-- An acute accent stays on an `x`, with which it does not compose. -/
theorem slug_keeps_uncomposed_accent : slug .none "x\u0301" = "x\u0301" ∧
    ¬Unaccented (·.isAlpha = true) (slug .none "x\u0301") := by
  have kept : foldAccents '\u0301' = '\u0301' := by
    rw [foldAccents, if_neg (by decide), canonicalExpansion_acute]
    rfl
  have folded : removeAccents ['x', '\u0301'] = ['x', '\u0301'] := by
    rw [removeAccents, normalize_x_acute, List.map_cons, List.map_singleton, kept]
    rfl
  have same : slug .none ['x', '\u0301'] = ['x', '\u0301'] := by
    rw [slug, slugWith, folded]
    decide +kernel
  have text : ("x\u0301" : Text) = ['x', '\u0301'] := by decide
  rw [text, same]
  refine ⟨rfl, fun unaccented => ?_⟩
  exact (List.isChain_cons_cons.mp unaccented).1 ⟨by decide, by decide +kernel⟩

end MarkdownSite.Text
