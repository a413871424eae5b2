import MarkdownSite.Proofs.Text.Reference
import MarkdownSite.Url.Encode

/-!
# Hidden texts

A text whose characters are all written as references by number is read as it is if all of them can
be printed, and never as a longer one. A document has no references without semicolons.
-/

namespace MarkdownSite

open Text

/-! ## Numbers -/

namespace Text

/-- A decimal digit is one among the hexadecimal digits. -/
theorem hexDigit?_of_isDigit {c : Char} (digit : c.isDigit = true) :
    hexDigit? c = some (c.toNat - 48) ∧ c.toNat - 48 < 10 := by
  simp only [Char.isDigit, Bool.and_eq_true, decide_eq_true_eq] at digit
  have most : c.toNat ≤ 57 := digit.2
  exact ⟨if_pos digit, by omega⟩

/-- The digits of a number are read as the number. -/
theorem toNatBase?_ofNat (n : Nat) : toNatBase? 10 (ofNat n) = some n := by
  -- the number read so far goes on with each digit
  have further {t : Text} (digits : ∀ c ∈ t, c.isDigit = true) (n : Nat) :
      t.foldlM (fun n c => (hexDigit? c).bind fun d =>
        if d < 10 then some (n * 10 + d) else none) n = some (Nat.ofDigitChars 10 t n) := by
    induction t generalizing n with
    | nil => rfl
    | cons c t ih =>
      obtain ⟨value, small⟩ := hexDigit?_of_isDigit (digits c List.mem_cons_self)
      rw [List.foldlM_cons, value, Option.bind_some, if_pos small]
      change List.foldlM _ (n * 10 + (c.toNat - 48)) t = _
      rw [ih fun d member => digits d (List.mem_cons_of_mem c member), Nat.ofDigitChars_cons,
        Nat.mul_comm n 10]
      rfl
  have present : (ofNat n).isEmpty = false := List.isEmpty_eq_false_iff.mpr Nat.toDigits_ne_nil
  unfold toNatBase?
  rw [present, if_neg Bool.false_ne_true, further fun c member => isDigit_of_mem_ofNat member]
  exact congrArg some (Nat.ofDigitChars_ten_toDigits)

/-- Whether a character is a digit of a base. -/
def isDigitOf (base : Nat) (c : Char) : Bool :=
  match hexDigit? c with
  | some d => d < base
  | none => false

/-- A reference by number without a limit is read as all the digits that follow, up to its end. -/
theorem number?_of_unlimited (form : ReferenceForm) (base : Nat) (t : Text) :
    form.number? base none t = (toNatBase? base (t.takeWhile (isDigitOf base))).bind fun n =>
      (form.close (t.drop (t.takeWhile (isDigitOf base)).length)).map fun ending =>
        (numberedEntity n, ending.2) := by
  unfold ReferenceForm.number?
  change (toNatBase? base (t.takeWhile (isDigitOf base))).bind _ = _
  cases toNatBase? base (t.takeWhile (isDigitOf base)) with
  | none => rfl
  | some n =>
    change (form.close (t.drop (t.takeWhile (isDigitOf base)).length)).bind _ = _
    cases form.close (t.drop (t.takeWhile (isDigitOf base)).length) with
    | none => rfl
    | some ending => rfl

/-- A reference by number is read up to its semicolon. -/
theorem read?_number (n : Nat) (rest : Text) :
    browserReferences.read? ('#' :: (ofNat n ++ ';' :: rest)) = some (numberedEntity n, rest) := by
  have taken : (ofNat n ++ ';' :: rest).takeWhile (isDigitOf 10) = ofNat n := by
    refine takeWhile_append_of_head (fun c member => ?_) (by simp [isDigitOf, hexDigit?])
    obtain ⟨value, small⟩ := hexDigit?_of_isDigit (isDigit_of_mem_ofNat member)
    simp [isDigitOf, value, small]
  have number : browserReferences.number? 10 none (ofNat n ++ ';' :: rest) =
      some (numberedEntity n, rest) := by
    rw [number?_of_unlimited, taken, toNatBase?_ofNat, Option.bind_some, List.drop_left]
    rfl
  have filled : ofNat n ≠ [] := Nat.toDigits_ne_nil
  cases digits : ofNat n with
  | nil => exact absurd digits filled
  | cons c others =>
    have digit := isDigit_of_mem_ofNat (n := n) (c := c) (by rw [digits]; exact List.mem_cons_self)
    have decimal : ¬(c = 'x' ∨ c = 'X') := by
      rintro (rfl | rfl) <;> cases digit
    rw [digits] at number
    unfold ReferenceForm.read?
    simp only [List.cons_append, if_neg decimal]
    exact number

/-- A number stands for one character at most. -/
theorem length_numberedEntity_le (n : Nat) : (numberedEntity n).length ≤ 1 := by
  unfold numberedEntity
  repeat' split
  all_goals simp

/-! ## Texts without semicolons -/

/-- No reference that a document may have ends without a semicolon. -/
theorem close_of_unclosed {t : Text} (unclosed : ';' ∉ t) : markdownReferences.close t = none := by
  unfold ReferenceForm.close
  split
  · exact absurd List.mem_cons_self unclosed
  · rfl

/-- A text without semicolons starts with no reference that a document may have. -/
theorem read?_of_unclosed {t : Text} (unclosed : ';' ∉ t) : markdownReferences.read? t = none := by
  have further {n : Nat} {s : Text} (behind : s <:+ t) :
      markdownReferences.close (s.drop n) = none :=
    close_of_unclosed fun member => unclosed (behind.mem (List.mem_of_mem_drop member))
  have number {base : Nat} {limit : Option Nat} {s : Text} (behind : s <:+ t) :
      markdownReferences.number? base limit s = none := by
    unfold ReferenceForm.number?
    dsimp only
    refine Option.bind_eq_none_iff.mpr fun n _ => ?_
    split
    · split
      · rfl
      · rw [further behind]
        rfl
    · rw [further behind]
      rfl
  unfold ReferenceForm.read?
  split
  · rename_i x rest
    split
    · exact number ((List.suffix_cons x rest).trans (List.suffix_cons '#' (x :: rest)))
    · exact number (List.suffix_cons '#' (x :: rest))
  · dsimp only
    split
    · rfl
    · rw [further (List.suffix_refl t)]
      rfl

/-- A text without semicolons has no reference that a document may have. -/
theorem decodeStrictEntities_of_unclosed {t : Text} (unclosed : ';' ∉ t) :
    decodeStrictEntities t = t := by
  induction t with
  | nil => rfl
  | cons c t ih =>
    obtain ⟨-, later⟩ := not_or.mp (List.mem_cons.not.mp unclosed)
    have rest : markdownReferences.decode t = t := ih later
    by_cases ampersand : c = '&'
    · subst ampersand
      rw [decodeStrictEntities, ReferenceForm.decode, List.length_cons, ReferenceForm.decodeFrom,
        if_pos rfl, read?_of_unclosed later]
      exact congrArg (List.cons '&') rest
    · rw [decodeStrictEntities, markdownReferences.decode_cons ampersand, rest]

end Text

/-! ## Hidden texts -/

namespace Url

/-- A character that can be printed, among those of ASCII. -/
def IsPrintable (c : Char) : Prop := 32 ≤ c.toNat ∧ c.toNat < 127

/-- A text that is hidden is read character by character. -/
theorem decodeEntities_mangle_cons (c : Char) (t : Text) :
    decodeEntities (mangle (c :: t)) = numberedEntity c.toNat ++ decodeEntities (mangle t) := by
  have whole : mangle (c :: t) = '&' :: '#' :: (ofNat c.toNat ++ ';' :: mangle t) := by
    rw [mangle, List.flatMap_cons]
    simp [mangle]
  rw [whole]
  exact browserReferences.decode_reference _ (read?_number c.toNat (mangle t))

/-- A text that is hidden is read as it is if it can be printed. -/
theorem decodeEntities_mangle {t : Text} (printable : ∀ c ∈ t, IsPrintable c) :
    decodeEntities (mangle t) = t := by
  induction t with
  | nil => rfl
  | cons c t ih =>
    obtain ⟨least, most⟩ := printable c List.mem_cons_self
    have own : 32 ≤ c.toNat → numberedEntity c.toNat = [c] := of_toNat_lt most (by decide)
    rw [decodeEntities_mangle_cons, ih fun d member => printable d (List.mem_cons_of_mem c member),
      own least, List.singleton_append]

/-- A text that is hidden is not read as a longer one. -/
theorem length_decodeEntities_mangle_le (t : Text) :
    (decodeEntities (mangle t)).length ≤ t.length := by
  induction t with
  | nil => exact Nat.le_refl 0
  | cons c t ih =>
    have one := length_numberedEntity_le c.toNat
    rw [decodeEntities_mangle_cons, List.length_append, List.length_cons]
    omega

end Url

end MarkdownSite
