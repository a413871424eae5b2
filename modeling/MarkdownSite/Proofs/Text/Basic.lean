import Mathlib.Data.List.TakeWhile
import MarkdownSite.Text.Basic

/-!
# Cutting texts

What the operations that cut a text say about it: a dropped beginning and the rest make up the
text, and so do the parts around the first place of another text. What is said of single characters
and of written numbers stands here too.
-/

namespace MarkdownSite.Text

/-- What one character of a text after the other is found to satisfy, all of them satisfy. -/
theorem forall_mem_of_all {p : Char → Prop} [DecidablePred p] {t : Text}
    (all : t.all (fun c => decide (p c)) = true) : ∀ c ∈ t, p c := by
  simpa using all

/-- What the characters with a number below a bound are found to satisfy one after the other, each
of them satisfies. -/
@[elab_as_elim]
theorem of_toNat_lt {motive : Char → Prop} {bound : Nat} {c : Char} (small : c.toNat < bound)
    (checked : ∀ n < bound, motive (Char.ofNat n)) : motive c := by
  have own := checked c.toNat small
  rwa [Char.ofNat_toNat] at own

/-- Dropping a beginning succeeds exactly on the texts that have it. -/
theorem dropPrefix?_eq_some_iff {p t rest : Text} :
    dropPrefix? p t = some rest ↔ t = p ++ rest := by
  induction p generalizing t with
  | nil => simp [dropPrefix?, eq_comm]
  | cons a p ih =>
    cases t with
    | nil => simp [dropPrefix?]
    | cons b t =>
      by_cases same : a = b
      · simp [dropPrefix?, same, ih]
      · simp [dropPrefix?, same, Ne.symm same]

/-- A beginning followed by a text is dropped from it. -/
@[simp]
theorem dropPrefix?_append (p t : Text) : dropPrefix? p (p ++ t) = some t :=
  dropPrefix?_eq_some_iff.mpr rfl

/-- Dropping as many characters as the longest run has leaves what follows the run. -/
theorem drop_length_takeWhile (p : Char → Bool) (t : Text) :
    t.drop (t.takeWhile p).length = t.dropWhile p := by
  have joined := List.takeWhile_append_dropWhile (p := p) (l := t)
  calc t.drop (t.takeWhile p).length
      = (t.takeWhile p ++ t.dropWhile p).drop (t.takeWhile p).length := by rw [joined]
    _ = t.dropWhile p := List.drop_left

/-- The longest run ends before a character that does not belong to it. -/
theorem takeWhile_append_cons {p : Char → Bool} {c : Char} (stop : ¬p c = true) (s t : Text) :
    (s ++ c :: t).takeWhile p = s.takeWhile p := by
  induction s with
  | nil => exact List.takeWhile_cons_of_neg stop
  | cons a s ih => rw [List.cons_append, List.takeWhile_cons, List.takeWhile_cons, ih]

/-- The longest run of characters of a class is what stands before one of another class, or the
whole text. -/
theorem takeWhile_append_of_head {p : Char → Bool} {s t : Text} (inside : ∀ c ∈ s, p c = true)
    (ends : ∀ c ∈ t.head?, p c = false) : (s ++ t).takeWhile p = s := by
  rw [List.takeWhile_append_of_pos inside]
  cases t with
  | nil => simp
  | cons c t => rw [List.takeWhile_cons_of_neg (by simp [ends c rfl]), List.append_nil]

/-- A run up to the first place of a character that a text lacks is the whole text. -/
theorem takeWhile_bne {c : Char} {t : Text} (absent : c ∉ t) : t.takeWhile (· != c) = t :=
  List.takeWhile_eq_self_iff.mpr fun _ member => bne_iff_ne.mpr fun same => absent (same ▸ member)

/-- A text starts with another exactly when the other is its beginning. -/
theorem startsWith_iff {p t : Text} : startsWith p t = true ↔ p <+: t := by
  rw [startsWith, Option.isSome_iff_exists]
  constructor
  · rintro ⟨rest, dropped⟩
    exact ⟨rest, (dropPrefix?_eq_some_iff.mp dropped).symm⟩
  · rintro ⟨rest, joined⟩
    exact ⟨rest, dropPrefix?_eq_some_iff.mpr joined.symm⟩

/-- A beginning that lacks the character with which another part starts does not reach into it. -/
theorem isPrefix_append_iff {start s tail : Text} (apart : ∀ c ∈ tail.head?, c ∉ start) :
    start <+: s ++ tail ↔ start <+: s := by
  induction s generalizing start with
  | nil =>
    cases start with
    | nil => simp
    | cons a start =>
      cases tail with
      | nil => simp
      | cons b tail =>
        have differ : a ≠ b := fun same => apart b (by simp) (by simp [same])
        simp [differ]
  | cons b s ih =>
    cases start with
    | nil => simp
    | cons a start =>
      rw [List.cons_append, List.cons_prefix_cons, List.cons_prefix_cons, ih]
      exact fun c head member => apart c head (List.mem_cons_of_mem a member)

/-- Two texts up to the first place of a character are compared up to there. -/
theorem isPrefix_append_singleton_iff {c : Char} {start s : Text} (first : c ∉ start)
    (second : c ∉ s) (tail : Text) : start ++ [c] <+: s ++ c :: tail ↔ start = s := by
  induction start generalizing s with
  | nil =>
    cases s with
    | nil => simp
    | cons b s =>
      have differ : c ≠ b := fun same => second (by simp [same])
      simp [differ]
  | cons a start ih =>
    cases s with
    | nil =>
      have differ : a ≠ c := fun same => first (by simp [same])
      simp [differ]
    | cons b s =>
      rw [List.cons_append, List.cons_append, List.cons_prefix_cons, List.cons.injEq,
        ih (fun member => first (List.mem_cons_of_mem a member))
          (fun member => second (List.mem_cons_of_mem b member))]

/-! ## The first and the last place -/

/-- The two sides of the first place of a text, and it between them, are the whole. -/
theorem eq_append_of_splitFirst {p t before after : Text}
    (found : splitFirst p t = some (before, after)) : t = before ++ p ++ after := by
  induction t generalizing before with
  | nil =>
    unfold splitFirst at found
    split at found
    · rename_i empty
      cases found
      rw [empty]
      rfl
    · cases found
  | cons c t ih =>
    rw [splitFirst] at found
    cases dropped : dropPrefix? p (c :: t) with
    | some rest =>
      rw [dropped] at found
      cases found
      exact dropPrefix?_eq_some_iff.mp dropped
    | none =>
      rw [dropped] at found
      obtain ⟨⟨before', after'⟩, inner, same⟩ := Option.map_eq_some_iff.mp found
      cases same
      rw [ih inner]
      rfl

/-- A text is cut at the first place of a character. -/
theorem splitFirst_singleton {c : Char} {before : Text} (absent : c ∉ before) (after : Text) :
    splitFirst [c] (before ++ c :: after) = some (before, after) := by
  induction before with
  | nil => simp [splitFirst, dropPrefix?]
  | cons d before ih =>
    rw [List.mem_cons, not_or] at absent
    rw [List.cons_append, splitFirst, ih absent.2]
    simp [dropPrefix?, absent.1]

/-- A text that lacks a character is cut after it, where what follows is. -/
theorem splitFirst_append_of_none {c : Char} {t : Text} (none : splitFirst [c] t = none)
    (rest : Text) :
    splitFirst [c] (t ++ rest) =
      (splitFirst [c] rest).map fun parts => (t ++ parts.1, parts.2) := by
  induction t with
  | nil => simp
  | cons d t ih =>
    have differ : c ≠ d := by
      rintro rfl
      simp [splitFirst, dropPrefix?] at none
    simp only [splitFirst, dropPrefix?, differ, ↓reduceIte, Option.map_eq_none_iff] at none
    rw [List.cons_append, splitFirst]
    simp only [dropPrefix?, differ, ↓reduceIte, ih none]
    cases splitFirst [c] rest with
    | none => rfl
    | some found => rfl

/-- A text that has a character is cut there, whatever follows it. -/
theorem splitFirst_append_of_some {c : Char} {t before after : Text}
    (found : splitFirst [c] t = some (before, after)) (rest : Text) :
    splitFirst [c] (t ++ rest) = some (before, after ++ rest) := by
  induction t generalizing before with
  | nil => simp [splitFirst] at found
  | cons d t ih =>
    rw [List.cons_append]
    by_cases same : c = d
    · simp only [splitFirst, dropPrefix?, same, ↓reduceIte, Option.some.injEq,
        Prod.mk.injEq] at found ⊢
      exact ⟨found.1, by rw [found.2]⟩
    · simp only [splitFirst, dropPrefix?, same, ↓reduceIte] at found ⊢
      obtain ⟨⟨before', after'⟩, inner, pair⟩ := Option.map_eq_some_iff.mp found
      cases pair
      rw [ih inner]
      rfl

/-- A text is not cut at a character that it lacks. -/
theorem splitFirst_eq_none {c : Char} {t : Text} (absent : c ∉ t) : splitFirst [c] t = none := by
  cases found : splitFirst [c] t with
  | none => rfl
  | some parts =>
    rw [eq_append_of_splitFirst found] at absent
    simp at absent

/-- A text is cut at the last place of a character. -/
theorem splitLast_append {c : Char} {after : Text} (absent : c ∉ after) (before : Text) :
    splitLast c (before ++ c :: after) = some (before, after) := by
  have turned : (before ++ c :: after).reverse = after.reverse ++ c :: before.reverse := by simp
  have absent' : c ∉ after.reverse := by rwa [List.mem_reverse]
  rw [splitLast, turned, splitFirst_singleton absent']
  simp

/-- A text has no last place of a character that it lacks. -/
theorem splitLast_eq_none {c : Char} {t : Text} (absent : c ∉ t) : splitLast c t = none := by
  rw [splitLast, splitFirst_eq_none (by rwa [List.mem_reverse]), Option.map_none]

/-- A text that has a character has a last place of it. -/
theorem exists_last {c : Char} {t : Text} (member : c ∈ t) :
    ∃ before after, t = before ++ c :: after ∧ c ∉ after := by
  obtain ⟨after, before, turned, absent⟩ := List.eq_append_cons_of_mem (List.mem_reverse.mpr member)
  refine ⟨before.reverse, after.reverse, ?_, by rwa [List.mem_reverse]⟩
  simpa using congrArg List.reverse turned

/-! ## Letters -/

/-- A letter has one of the numbers of ASCII letters. -/
theorem range_of_isAlpha {c : Char} (letter : c.isAlpha = true) :
    65 ≤ c.toNat ∧ c.toNat ≤ 90 ∨ 97 ≤ c.toNat ∧ c.toNat ≤ 122 := by
  rcases Bool.or_eq_true_iff.mp letter with upper | lower
  · obtain ⟨least, greatest⟩ := of_decide_eq_true upper
    exact .inl ⟨UInt32.le_iff_toNat_le.mp least, UInt32.le_iff_toNat_le.mp greatest⟩
  · obtain ⟨least, greatest⟩ := Bool.and_eq_true_iff.mp lower
    exact .inr ⟨UInt32.le_iff_toNat_le.mp (of_decide_eq_true least),
      UInt32.le_iff_toNat_le.mp (of_decide_eq_true greatest)⟩

/-- The lower case of a character is the character itself, unless it is one of the capitals. -/
theorem toLower_cases (c : Char) : c.toLower = c ∨ ∃ n < 26, c = Char.ofNat (65 + n) := by
  unfold Char.toLower
  split
  · rename_i upper
    have least := UInt32.le_iff_toNat_le.mp upper.1
    have greatest := UInt32.le_iff_toNat_le.mp upper.2
    change 65 ≤ c.toNat at least
    change c.toNat ≤ 90 at greatest
    refine .inr ⟨c.toNat - 65, by omega, ?_⟩
    rw [show 65 + (c.toNat - 65) = c.toNat by omega, Char.ofNat_toNat]
  · exact .inl rfl

/-- A character is a letter exactly if its lower case is. -/
theorem isAlpha_toLower (c : Char) : c.toLower.isAlpha = c.isAlpha := by
  have capitals : ∀ n < 26, (Char.ofNat (65 + n)).toLower.isAlpha =
      (Char.ofNat (65 + n)).isAlpha := by decide
  rcases toLower_cases c with same | ⟨n, small, rfl⟩
  · rw [same]
  · exact capitals n small

/-- Lower case is its own lower case. -/
theorem toLower_toLower (c : Char) : c.toLower.toLower = c.toLower := by
  have capitals : ∀ n < 26, (Char.ofNat (65 + n)).toLower.toLower =
      (Char.ofNat (65 + n)).toLower := by decide
  rcases toLower_cases c with same | ⟨n, small, rfl⟩
  · rw [same, same]
  · exact capitals n small

/-- A character that is no letter is its own lower case. -/
theorem toLower_of_not_isAlpha {c : Char} (other : c.isAlpha = false) : c.toLower = c := by
  have capitals : ∀ n < 26, (Char.ofNat (65 + n)).isAlpha = true := by decide
  rcases toLower_cases c with same | ⟨n, small, rfl⟩
  · exact same
  · rw [capitals n small] at other
    cases other

/-! ## Numbers -/

/-- The digits of a number are decimal digits. -/
theorem isDigit_of_mem_ofNat {n : Nat} {c : Char} (member : c ∈ ofNat n) : c.isDigit = true :=
  Nat.isDigit_of_mem_toDigits (by decide) (by decide) member

/-- Different numbers have different digits. -/
theorem ofNat_injective : Function.Injective ofNat := by
  intro m n (digits : Nat.toDigits 10 m = Nat.toDigits 10 n)
  rw [← Nat.ofDigitChars_ten_toDigits (n := m), digits, Nat.ofDigitChars_ten_toDigits]

/-- Different integers are written differently: a minus sign is no digit. -/
theorem ofInt_injective : Function.Injective ofInt := by
  have unsigned {n : Nat} : '-' ∉ ofNat n := fun sign =>
    absurd (isDigit_of_mem_ofNat sign) (by decide)
  intro m n same
  cases m with
  | ofNat m =>
    cases n with
    | ofNat n => exact congrArg Int.ofNat (ofNat_injective same)
    | negSucc n =>
      change ofNat m = '-' :: ofNat (n + 1) at same
      exact absurd (same ▸ List.mem_cons_self) unsigned
  | negSucc m =>
    cases n with
    | ofNat n =>
      change '-' :: ofNat (m + 1) = ofNat n at same
      exact absurd (same ▸ List.mem_cons_self) unsigned
    | negSucc n =>
      have digits : m + 1 = n + 1 := ofNat_injective (List.cons.inj same).2
      exact congrArg Int.negSucc (Nat.succ.inj digits)

end MarkdownSite.Text
