import Mathlib.Data.List.Chain
import MarkdownSite.Proofs.Text.Slug

/-!
# Where the separators of a slug stand

The copies of a separator are collapsed and then dropped at both ends, so that each one stands
between two other characters. A change of letter case keeps it so: what becomes of another character
is never nothing and never a separator.
-/

namespace MarkdownSite.Text

open Unicode

/-- A separator stands between other characters: at neither end of the text and not beside another
separator. -/
structure Separates (sep : Char) (t : Text) : Prop where
  /-- It is not the first character. -/
  starts : sep ∉ t.head?
  /-- It is not the last character. -/
  ends : sep ∉ t.getLast?
  /-- No two neighbours are separators. -/
  apart : t.IsChain fun c d => ¬(c = sep ∧ d = sep)

/-! ## Collapsing and trimming -/

section Copies

variable {sep : Char}

/-- A separator of one character is dropped like a character. -/
theorem dropPrefix?_singleton (c : Char) (t : Text) :
    dropPrefix? [sep] (c :: t) = if sep = c then some t else none := rfl

/-- The copies of a character at the start of a text are those that come before the first other
character. -/
theorem leadingCopies_singleton {fuel : Nat} {t : Text} (enough : t.length ≤ fuel) :
    leadingCopies [sep] fuel t =
      ((t.takeWhile (· == sep)).length, t.dropWhile (· == sep)) := by
  induction fuel generalizing t with
  | zero =>
    obtain rfl := List.eq_nil_of_length_eq_zero (Nat.le_zero.mp enough)
    rfl
  | succ fuel ih =>
    cases t with
    | nil => rfl
    | cons c t =>
      rw [leadingCopies, dropPrefix?_singleton]
      by_cases same : sep = c
      · have copy : (c == sep) = true := beq_iff_eq.mpr same.symm
        simp only [if_pos same, ih (Nat.le_of_succ_le_succ enough), List.takeWhile_cons, copy,
          ↓reduceIte, List.dropWhile_cons, List.length_cons]
      · have other : (c == sep) = false := beq_eq_false_iff_ne.mpr (Ne.symm same)
        simp only [if_neg same, List.takeWhile_cons, other, Bool.false_eq_true, ↓reduceIte,
          List.dropWhile_cons, List.length_nil]

/-- A separator does not stand first where its copies were dropped. -/
theorem not_mem_head?_dropWhile (t : Text) : sep ∉ (t.dropWhile (· == sep)).head? := by
  intro first
  have stopped := List.head?_dropWhile_not (· == sep) t
  rw [Option.mem_def.mp first] at stopped
  simp at stopped

/-- Trimming a character drops it at both ends. -/
theorem trimCopies_singleton (t : Text) : trimCopies [sep] t = stripWhere (· == sep) t := by
  simp only [trimCopies, leadingCopies_singleton (Nat.le_refl _), List.reverse_singleton]
  rw [leadingCopies_singleton (by rw [List.length_reverse])]
  rfl

/-- Collapsing does not change whether a text starts with a separator. -/
theorem head?_collapseCopies (fuel : Nat) (t : Text) :
    (collapseCopies [sep] (fun _ => [sep]) fuel t).head? = t.head? := by
  cases fuel with
  | zero => rfl
  | succ fuel =>
    cases t with
    | nil => rfl
    | cons c t =>
      simp only [collapseCopies]
      split
      · rename_i copies
        by_cases same : sep = c
        · rw [same]
          rfl
        · -- a text that starts with another character has no copies there
          simp [leadingCopies, dropPrefix?_singleton, same] at copies
      · rfl

/-- Collapsing leaves no two separators side by side. -/
theorem isChain_collapseCopies {fuel : Nat} {t : Text} (enough : t.length ≤ fuel) :
    (collapseCopies [sep] (fun _ => [sep]) fuel t).IsChain fun c d => ¬(c = sep ∧ d = sep) := by
  induction fuel generalizing t with
  | zero =>
    obtain rfl := List.eq_nil_of_length_eq_zero (Nat.le_zero.mp enough)
    exact List.isChain_nil
  | succ fuel ih =>
    have joined {c : Char} {rest : Text} (bound : rest.length ≤ fuel)
        (other : c = sep → sep ∉ rest.head?) :
        (c :: collapseCopies [sep] (fun _ => [sep]) fuel rest).IsChain
          fun c d => ¬(c = sep ∧ d = sep) := by
      refine List.IsChain.cons (ih bound) fun d first both => other both.1 ?_
      rw [head?_collapseCopies] at first
      exact both.2 ▸ first
    cases t with
    | nil => exact List.isChain_nil
    | cons c t =>
      simp only [collapseCopies, leadingCopies_singleton enough]
      split
      · -- a run of copies: what follows it starts with another character
        rename_i copies
        have same : c = sep := by
          by_contra other
          simp [other] at copies
        subst same
        have rest : (c :: t).dropWhile (· == c) = t.dropWhile (· == c) :=
          List.dropWhile_cons_of_pos (by simp)
        rw [rest]
        refine joined ?_ fun _ => not_mem_head?_dropWhile t
        exact (List.dropWhile_suffix _).length_le.trans (Nat.le_of_succ_le_succ enough)
      · rename_i few
        refine joined (Nat.le_of_succ_le_succ enough) ?_
        rintro rfl first
        obtain ⟨rest, rfl⟩ := List.head?_eq_some_iff.mp first
        simp at few

/-- What is left of a text whose copies of a separator are collapsed and dropped at both ends has
separators between other characters only. -/
theorem separates_trimCopies (t : Text) :
    Separates sep (trimCopies [sep] (collapseCopies [sep] (fun _ => [sep]) t.length t)) := by
  let collapsed := collapseCopies [sep] (fun _ => [sep]) t.length t
  let opened := collapsed.dropWhile (· == sep)
  have trimmed : trimCopies [sep] collapsed = (opened.reverse.dropWhile (· == sep)).reverse :=
    trimCopies_singleton collapsed
  have start : (opened.reverse.dropWhile (· == sep)).reverse <+: opened := by
    have reversed := List.dropWhile_suffix (l := opened.reverse) (· == sep)
    rwa [← List.reverse_prefix, List.reverse_reverse] at reversed
  refine trimmed ▸ ⟨fun first => ?_, fun last => ?_, ?_⟩
  · obtain ⟨rest, whole⟩ := start
    obtain ⟨tail, same⟩ := List.head?_eq_some_iff.mp first
    rw [same] at whole
    have opens : sep ∈ opened.head? := by
      rw [← whole]
      rfl
    exact not_mem_head?_dropWhile collapsed opens
  · rw [List.getLast?_reverse] at last
    exact not_mem_head?_dropWhile _ last
  · have chain : collapsed.IsChain fun c d => ¬(c = sep ∧ d = sep) :=
      isChain_collapseCopies (Nat.le_refl t.length)
    have within : opened.IsChain fun c d => ¬(c = sep ∧ d = sep) :=
      chain.suffix (List.dropWhile_suffix _)
    obtain ⟨rest, whole⟩ := start
    rw [← whole] at within
    exact within.left_of_append

end Copies

/-! ## Changing the letter case -/

/-- A text is respelled character by character: separators stay, and each other character becomes
some text without separators. -/
inductive Respelled (sep : Char) : Text → Text → Prop
  | nil : Respelled sep [] []
  | separator {t r : Text} (rest : Respelled sep t r) : Respelled sep (sep :: t) (sep :: r)
  | other {c : Char} {t piece r : Text} (differs : c ≠ sep) (present : piece ≠ [])
      (absent : sep ∉ piece) (rest : Respelled sep t r) : Respelled sep (c :: t) (piece ++ r)

namespace Respelled

variable {sep : Char} {t r : Text}

/-- A text may be respelled as it is. -/
theorem refl (sep : Char) (t : Text) : Respelled sep t t := by
  induction t with
  | nil => exact .nil
  | cons c t ih =>
    by_cases same : c = sep
    · subst same
      exact .separator ih
    · have one : Respelled sep (c :: t) ([c] ++ t) :=
        .other same (by simp) (by simpa using Ne.symm same) ih
      exact one

/-- A text that is respelled starts with a separator only if it did so before. -/
theorem mem_head? (respelled : Respelled sep t r) (first : sep ∈ r.head?) : sep ∈ t.head? := by
  cases respelled with
  | nil => exact first
  | separator rest => rfl
  | other differs present absent rest =>
    obtain ⟨d, piece, rfl⟩ := List.exists_cons_of_ne_nil present
    cases first
    exact absurd List.mem_cons_self absent

/-- Nothing is all that is respelled as nothing. -/
theorem eq_nil (respelled : Respelled sep t []) : t = [] := by
  generalize whole : ([] : Text) = r at respelled
  cases respelled with
  | nil => rfl
  | separator rest => cases whole
  | other differs present absent rest =>
    exact absurd (List.append_eq_nil_iff.mp whole.symm).1 present

/-- A text that is respelled ends with a separator only if it did so before. -/
theorem mem_getLast? (respelled : Respelled sep t r) (last : sep ∈ r.getLast?) :
    sep ∈ t.getLast? := by
  induction respelled with
  | nil => exact last
  | @separator t r rest ih =>
    cases t with
    | nil => rfl
    | cons d t =>
      cases r with
      | nil => cases rest.eq_nil
      | cons e r =>
        rw [List.getLast?_cons_cons] at last ⊢
        exact ih last
  | @other c t piece r differs present absent rest ih =>
    rw [List.getLast?_append] at last
    cases r with
    | nil => exact absurd (List.mem_of_getLast? last) absent
    | cons e r =>
      cases t with
      | nil => nomatch rest
      | cons d t =>
        rw [List.getLast?_cons_cons]
        exact ih (by simpa using last)

/-- A text that is respelled has two separators side by side only if it had them before. -/
theorem isChain (respelled : Respelled sep t r)
    (apart : t.IsChain fun c d => ¬(c = sep ∧ d = sep)) :
    r.IsChain fun c d => ¬(c = sep ∧ d = sep) := by
  induction respelled with
  | nil => exact List.isChain_nil
  | separator rest ih =>
    obtain ⟨next, tail⟩ := List.isChain_cons.mp apart
    refine List.IsChain.cons (ih tail) fun d first both => ?_
    exact next sep (rest.mem_head? (both.2 ▸ first)) ⟨rfl, rfl⟩
  | other differs present absent rest ih =>
    rename_i piece r
    refine List.isChain_append.mpr ⟨?_, ih (List.isChain_cons.mp apart).2, ?_⟩
    · refine List.isChain_iff_forall_rel_of_append_cons_cons.mpr ?_
      rintro c d before after rfl ⟨rfl, -⟩
      simp at absent
    · rintro c last d - ⟨rfl, -⟩
      exact absent (List.mem_of_getLast? last)

/-- Separators stand between other characters still when a text is respelled. -/
theorem separates (respelled : Respelled sep t r) (separates : Separates sep t) :
    Separates sep r where
  starts first := separates.starts (respelled.mem_head? first)
  ends last := separates.ends (respelled.mem_getLast? last)
  apart := respelled.isChain separates.apart

end Respelled

/-- A text of slug characters has no hyphen. -/
theorem hyphen_not_mem {t : Text} (slug : ∀ c ∈ t, isSlugChar c = true) : '-' ∉ t := by
  have hyphen : isSlugChar '-' = false := by decide
  intro member
  rw [slug '-' member] at hyphen
  cases hyphen

/-- A character in a slug that becomes slug characters, where it is no hyphen, is respelled. -/
theorem Respelled.cons {c : Char} {t piece r : Text} (inside : InSlug c)
    (hyphen : c = '-' → piece = ['-']) (present : piece ≠ [])
    (slug : isSlugChar c = true → ∀ d ∈ piece, isSlugChar d = true) (rest : Respelled '-' t r) :
    Respelled '-' (c :: t) (piece ++ r) := by
  by_cases same : c = '-'
  · rw [hyphen same, same]
    exact .separator rest
  · exact .other same present (hyphen_not_mem (slug (inside.resolve_left same))) rest

/-- A slug is respelled by a change of its letter case. -/
theorem respelled_apply (transform : CaseTransform) {t : Text} (inside : ∀ c ∈ t, InSlug c) :
    Respelled '-' t (transform.apply t) := by
  cases transform with
  | none => exact .refl '-' t
  | lower =>
    suffices each : ∀ before, Respelled '-' t (lowerFrom before t) from each []
    induction t with
    | nil => exact fun _ => .nil
    | cons c t ih =>
      intro before
      rw [lowerFrom]
      refine .cons (inside c List.mem_cons_self) ?_ ?_ ?_
        (ih (fun d member => inside d (List.mem_cons_of_mem c member)) (c :: before))
      · rintro rfl
        rfl
      · split
        · split <;> simp
        · exact lowerChar_ne_nil c
      · intro slug
        split
        · split <;> exact List.all_eq_true.mp (by decide)
        · exact lowerChar_slugChar slug
  | upper =>
    induction t with
    | nil => exact .nil
    | cons c t ih =>
      refine .cons (inside c List.mem_cons_self) ?_ (upperChar_ne_nil c) upperChar_slugChar
        (ih fun d member => inside d (List.mem_cons_of_mem c member))
      rintro rfl
      rfl

/-! ## Slugs -/

/-- The letter case of a slug changes last. -/
theorem slug_eq_apply (transform : CaseTransform) (t : Text) :
    slug transform t = transform.apply (slug .none t) := by
  unfold slug slugWith
  rw [CaseTransform.apply.eq_1]

/-- The hyphens of a slug stand between other characters. -/
theorem separates_slug (transform : CaseTransform) (t : Text) :
    Separates '-' (slug transform t) := by
  have template : fillTemplate [.text "-"] = fun _ => ['-'] := rfl
  have asWritten : Separates '-' (slug .none t) := by
    simp only [slug, slugWith, template, CaseTransform.apply]
    rw [show ("-" : Text) = ['-'] by decide, if_neg (by decide)]
    exact separates_trimCopies _
  have respelled := respelled_apply transform (t := slug .none t) inSlug_of_mem_slug
  rw [slug_eq_apply]
  exact respelled.separates asWritten

/-- A text that may stand in the fragment of a URL: no blanks, no controls and no unsafe punctuation
but hyphens, which stand between other characters. -/
structure FragmentSafe (t : Text) : Prop extends Separates '-' t where
  /-- No character is white space. -/
  blank : ∀ c ∈ t, isBlank c = false
  /-- No character is a control character below the space. -/
  control : ∀ c ∈ t, isControl c = false
  /-- A hyphen is the only unsafe punctuation. -/
  punctuation : ∀ c ∈ t, isUnsafePunctuation c = true → c = '-'

/-- **A slug with hyphens between its words is safe in the fragment of a URL**, whatever the text
and the letter case. -/
theorem slug_fragmentSafe (transform : CaseTransform) (t : Text) :
    ∃ s, slugSeparated? "-" transform t = some s ∧ FragmentSafe s := by
  have read : parseTemplate? "-" = some [.text "-"] := by
    rw [show ("-" : Text) = ['-'] by decide]
    rfl
  have plain {c : Char} (slug : isSlugChar c = true) :
      (isBlank c = false ∧ isUnsafePunctuation c = false) ∧ isControl c = false := by
    simpa [isSlugChar, isSlugBreak] using slug
  have given : slugSeparated? "-" transform t = some (slug transform t) := by
    rw [slugSeparated?, read]
    rfl
  refine ⟨slug transform t, given, separates_slug transform t, ?_, ?_, ?_⟩
  · intro c member
    rcases inSlug_of_mem_slug c member with rfl | slug
    · decide
    · exact (plain slug).1.1
  · intro c member
    rcases inSlug_of_mem_slug c member with rfl | slug
    · decide
    · exact (plain slug).2
  · intro c member marked
    refine (inSlug_of_mem_slug c member).resolve_right fun slug => ?_
    rw [(plain slug).1.2] at marked
    cases marked

end MarkdownSite.Text
