import Mathlib.Data.List.Induction
import MarkdownSite.Proofs.Unicode.Canonical

/-!
# Blanks in normal form

A blank stays a blank when a text is decomposed and composed again, and it becomes part of no other
character. So the blanks at the ends of a text play no part for the normal form of what is between
them.
-/

namespace MarkdownSite.Unicode

open Text

/-! ## Characters that stay apart -/

section Apart

variable {table : Decompositions} {e : Char}

/-- A starter that composes with nothing is followed by what the rest composes to. -/
theorem composeFrom_of_apart (apart : ∀ c, table.compose? e c = none) (marks : Text)
    (blocked : Option Nat) (t : Text) :
    composeFrom table e marks blocked t = e :: marks.reverse ++ composeAll table t := by
  induction t generalizing marks blocked with
  | nil => simp [composeFrom, composeAll]
  | cons c t ih =>
    rw [composeFrom.eq_def, composeAll]
    simp only [apart, ite_self]
    by_cases starter : combiningClass c = 0
    · rw [if_pos starter, if_pos starter]
    · rw [if_neg starter, if_neg starter, ih, List.reverse_cons]
      simp

/-- A starter that composes with nothing before it stays at the end. -/
theorem composeFrom_concat (starter : combiningClass e = 0)
    (apart : ∀ c, table.compose? c e = none) (first : Char) (marks : Text) (blocked : Option Nat)
    (t : Text) :
    composeFrom table first marks blocked (t ++ [e]) =
      composeFrom table first marks blocked t ++ [e] := by
  induction t generalizing first marks blocked with
  | nil =>
    rw [List.nil_append, composeFrom.eq_def, composeFrom.eq_def table first marks blocked []]
    simp only [apart, ite_self, if_pos starter]
    rfl
  | cons c t ih =>
    rw [List.cons_append, composeFrom.eq_def, composeFrom.eq_def table first marks blocked (c :: t)]
    dsimp only
    -- whether the character composes does not depend on what follows it
    split
    · exact ih _ _ _
    · split
      · rw [ih, List.append_assoc]
      · exact ih _ _ _

/-- A starter that composes with nothing before it stays at the end of what is composed. -/
theorem composeAll_concat (starter : combiningClass e = 0)
    (apart : ∀ c, table.compose? c e = none) (t : Text) :
    composeAll table (t ++ [e]) = composeAll table t ++ [e] := by
  induction t with
  | nil => simp [composeAll, starter, composeFrom]
  | cons c t ih =>
    rw [List.cons_append, composeAll, composeAll]
    split
    · exact composeFrom_concat starter apart c [] none t
    · rw [ih, List.cons_append]

/-- Marks are not put behind a starter. -/
theorem insertMark_concat (starter : combiningClass e = 0) (c : Char) (n : Nat) (t : Text) :
    insertMark c n (t ++ [e]) = insertMark c n t ++ [e] := by
  induction t with
  | nil => simp [insertMark, starter]
  | cons d t ih =>
    rw [List.cons_append, insertMark, insertMark]
    split
    · rfl
    · rw [ih, List.cons_append]

/-- A starter stays at the end when marks are put in order. -/
theorem orderMarks_concat (starter : combiningClass e = 0) (t : Text) :
    orderMarks (t ++ [e]) = orderMarks t ++ [e] := by
  induction t with
  | nil => simp [orderMarks, starter]
  | cons c t ih =>
    rw [List.cons_append, orderMarks, orderMarks, ih]
    split
    · rfl
    · exact insertMark_concat starter c _ _

variable {c : Char} (expands : table.expand? c = some [e]) (starter : combiningClass e = 0)

include expands starter

/-- A text behind a starter that composes with nothing is in normal form by itself. -/
theorem normalize_cons_apart (apart : ∀ d, table.compose? e d = none) (t : Text) :
    normalize table (c :: t) = e :: normalize table t := by
  have decomposed : decompose table (c :: t) = e :: decompose table t := by
    rw [decompose, List.flatMap_cons, expands, Option.getD_some, List.singleton_append, orderMarks]
    exact if_pos starter
  rw [normalize, decomposed, composeAll, if_pos starter, composeFrom_of_apart apart]
  rfl

/-- A text before a starter that composes with nothing before it is in normal form by itself. -/
theorem normalize_concat_apart (apart : ∀ d, table.compose? d e = none) (t : Text) :
    normalize table (t ++ [c]) = normalize table t ++ [e] := by
  have decomposed : decompose table (t ++ [c]) = decompose table t ++ [e] := by
    rw [decompose, List.flatMap_append, List.flatMap_singleton, expands, Option.getD_some,
      orderMarks_concat starter]
    rfl
  rw [normalize, decomposed, composeAll_concat starter apart]
  rfl

end Apart

/-! ## Blanks -/

/-- The blanks among and behind the marks. -/
def wideBlanks : List Nat :=
  [0x1680, 0x2000, 0x2001, 0x2002, 0x2003, 0x2004, 0x2005, 0x2006, 0x2007, 0x2008, 0x2009, 0x200A,
    0x2028, 0x2029, 0x202F, 0x205F, 0x3000]

section Blanks

variable {c : Char} (blank : isBlank c = true)

include blank

/-- A blank comes before all characters that decompose, or is one of those that are wide. -/
theorem mem_wideBlanks (wide : 0xC0 ≤ c.toNat) : c.toNat ∈ wideBlanks := by
  simp only [isBlank, Bool.or_eq_true, Bool.and_eq_true, decide_eq_true_eq, beq_iff_eq] at blank
  simp only [wideBlanks, List.mem_cons, List.not_mem_nil, or_false]
  omega

/-- A blank is a starter. -/
theorem combiningClass_blank : combiningClass c = 0 := by
  by_cases wide : 0xC0 ≤ c.toNat
  · have starters : ∀ n ∈ wideBlanks, combiningClass (Char.ofNat n) = 0 := by decide +kernel
    have starter := starters c.toNat (mem_wideBlanks blank wide)
    rwa [Char.ofNat_toNat] at starter
  · rw [combiningClass, if_pos (by omega)]

/-- A blank decomposes into a blank. -/
theorem canonicalExpansion_blank : ∃ d, canonicalExpansion c = [d] ∧ isBlank d = true := by
  have followed : ∀ fuel {c : Char}, isBlank c = true →
      ∃ d, expandBy canonicalEntryFor? fuel c = [d] ∧ isBlank d = true := by
    intro fuel
    induction fuel with
    | zero => exact fun blank => ⟨_, rfl, blank⟩
    | succ fuel ih =>
      intro c blank
      cases found : canonicalEntryFor? c with
      | none => exact ⟨c, expandBy_of_unlisted _ found, blank⟩
      | some entry =>
        obtain ⟨member, rfl⟩ := mem_of_canonicalEntryFor? found
        have keeps := (canonicalEntries_pass entry member).2.2
        unfold CanonicalEntry.keepsBlanks at keeps
        split at keeps
        · rename_i part parts
          rw [blank, Bool.not_true, Bool.false_or] at keeps
          obtain ⟨d, expanded, stays⟩ := ih keeps
          exact ⟨d, by simp [expandBy, found, parts, expanded], stays⟩
        · rw [blank, Bool.not_true, Bool.false_and] at keeps
          cases keeps
  rw [canonicalExpansion]
  split
  · exact ⟨c, rfl, blank⟩
  · rename_i wide
    have listed := mem_wideBlanks blank (by omega)
    have syllable : expandHangul? c = none := by
      simp only [wideBlanks, List.mem_cons, List.not_mem_nil, or_false] at listed
      rw [expandHangul?]
      exact if_neg (by omega)
    rw [syllable, Option.getD_none]
    exact followed 4 blank

end Blanks

/-- A blank composes with nothing. -/
theorem canonicalComposition?_blank {a b : Char} (blank : isBlank a = true ∨ isBlank b = true) :
    canonicalComposition? a b = none := by
  rw [canonicalComposition?]
  split
  · rfl
  · rename_i wide
    have syllable : composeHangul? a b = none := by
      simp only [isBlank, Bool.or_eq_true, Bool.and_eq_true, decide_eq_true_eq, beq_iff_eq] at blank
      rw [composeHangul?, if_neg (by omega), if_neg (by omega)]
    have unlisted : (canonicalEntries.find? fun entry =>
        entry.composes && entry.parts = [a, b]) = none := by
      refine List.find?_eq_none.mpr fun entry member found => ?_
      have keeps := (canonicalEntries_pass entry member).2.2
      have parts : entry.parts = [a, b] := by simpa using (Bool.and_eq_true_iff.mp found).2
      rw [CanonicalEntry.keepsBlanks, parts] at keeps
      simp only [Bool.and_eq_true, List.all_cons, Bool.not_eq_true'] at keeps
      rcases blank with first | second
      · rw [keeps.2.1] at first
        cases first
      · rw [keeps.2.2.1] at second
        cases second
    rw [syllable, unlisted]
    rfl

/-! ## Texts between blanks -/

/-- What follows blanks is in normal form by itself. -/
theorem exists_normalize_append {before : Text} (blanks : ∀ c ∈ before, isBlank c = true)
    (t : Text) : ∃ kept, (∀ c ∈ kept, isBlank c = true) ∧
      normalize canonical (before ++ t) = kept ++ normalize canonical t := by
  induction before with
  | nil => exact ⟨[], by simp, rfl⟩
  | cons c before ih =>
    obtain ⟨kept, stay, normal⟩ := ih fun d member => blanks d (List.mem_cons_of_mem c member)
    obtain ⟨d, expanded, blank⟩ := canonicalExpansion_blank (blanks c List.mem_cons_self)
    refine ⟨d :: kept, List.forall_mem_cons.mpr ⟨blank, stay⟩, ?_⟩
    rw [List.cons_append, normalize_cons_apart (by rw [canonical_expand?, expanded])
      (combiningClass_blank blank) (fun b => canonicalComposition?_blank (.inl blank)), normal]
    rfl

/-- What is followed by blanks is in normal form by itself. -/
theorem exists_normalize_append_blanks {after : Text} (blanks : ∀ c ∈ after, isBlank c = true)
    (t : Text) : ∃ kept, (∀ c ∈ kept, isBlank c = true) ∧
      normalize canonical (t ++ after) = normalize canonical t ++ kept := by
  induction after using List.reverseRec with
  | nil => exact ⟨[], by simp, by simp⟩
  | append_singleton after c ih =>
    obtain ⟨kept, stay, normal⟩ := ih fun d member => blanks d (List.mem_append_left _ member)
    obtain ⟨d, expanded, blank⟩ := canonicalExpansion_blank (blanks c (by simp))
    refine ⟨kept ++ [d], ?_, ?_⟩
    · intro b member
      rcases List.mem_append.mp member with earlier | last
      · exact stay b earlier
      · rwa [List.mem_singleton.mp last]
    · rw [← List.append_assoc, normalize_concat_apart (by rw [canonical_expand?, expanded])
        (combiningClass_blank blank) (fun b => canonicalComposition?_blank (.inr blank)), normal,
        List.append_assoc]

end MarkdownSite.Unicode
