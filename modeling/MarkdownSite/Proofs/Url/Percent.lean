import MarkdownSite.Proofs.Text.Basic
import MarkdownSite.Url.Percent

/-!
# What percent encoding keeps

Decoding keeps an ASCII character at the start that opens no escape. Encoding keeps the beginning
of a text if its characters stand for themselves, and makes no such beginning.
-/

namespace MarkdownSite.Url

open Text

/-- An ASCII byte at the start is a character of its own. -/
theorem decodeBytes_cons {b : UInt8} (ascii : b.toNat < 128) (bytes : List UInt8) :
    decodeBytes (b :: bytes) = Char.ofNat b.toNat :: decodeBytes bytes := by
  rw [decodeBytes, decodeBytesFrom, startChar, if_pos ascii]
  rfl

/-- The first byte of the run that is being read is a character of its own if it is ASCII. -/
theorem percentDecodeFrom_append {b : UInt8} (ascii : b.toNat < 128) (pending : List UInt8)
    (t : Text) :
    percentDecodeFrom (pending ++ [b]) t = Char.ofNat b.toNat :: percentDecodeFrom pending t := by
  induction pending, t using percentDecodeFrom.induct with
  | case1 pending =>
    rw [percentDecodeFrom, percentDecodeFrom, List.reverse_append, List.reverse_singleton,
      List.singleton_append, decodeBytes_cons ascii]
  | case2 pending first second t high low isHigh isLow ih =>
    rw [percentDecodeFrom, percentDecodeFrom]
    simp only [isHigh, isLow]
    exact ih
  | case3 pending first second t bad ih =>
    rw [percentDecodeFrom, percentDecodeFrom]
    split
    · rename_i high low isHigh isLow
      exact absurd isLow (bad high low isHigh)
    · exact ih
  | case4 pending c t plain short ih =>
    rw [percentDecodeFrom.eq_3 _ _ _ plain, percentDecodeFrom.eq_3 _ _ _ plain, if_pos short,
      if_pos short]
    exact ih
  | case5 pending c t plain long ih =>
    rw [percentDecodeFrom.eq_3 _ _ _ plain, percentDecodeFrom.eq_3 _ _ _ plain, if_neg long,
      if_neg long, List.reverse_append, List.reverse_singleton, List.singleton_append,
      decodeBytes_cons ascii]
    rfl

/-- An ASCII character at the start stays, unless it may open an escape. -/
theorem percentDecode_cons {c : Char} (ascii : c.toNat < 128) (plain : c ≠ '%') (t : Text) :
    percentDecode (c :: t) = c :: percentDecode t := by
  have small : (UInt8.ofNat c.toNat).toNat = c.toNat := by
    rw [UInt8.toNat_ofNat']
    omega
  have one := percentDecodeFrom_append (b := UInt8.ofNat c.toNat) (by omega) [] t
  rw [small, Char.ofNat_toNat, List.nil_append] at one
  rw [percentDecode, percentDecodeFrom.eq_3 _ _ _ (fun _ _ _ same _ => plain same), if_pos ascii]
  exact one

/-- ASCII characters at the start stay if none of them may open an escape. -/
theorem percentDecode_append {before : Text} (plain : ∀ c ∈ before, c.toNat < 128 ∧ c ≠ '%')
    (t : Text) : percentDecode (before ++ t) = before ++ percentDecode t := by
  induction before with
  | nil => rfl
  | cons c before ih =>
    obtain ⟨ascii, other⟩ := plain c List.mem_cons_self
    rw [List.cons_append, percentDecode_cons ascii other,
      ih fun d member => plain d (List.mem_cons_of_mem c member), List.cons_append]

/-- A text without a percent sign has nothing to decode. -/
theorem percentDecode_of_not_mem {t : Text} (plain : '%' ∉ t) : percentDecode t = t := by
  induction t with
  | nil => rfl
  | cons c t ih =>
    rw [List.mem_cons, not_or] at plain
    have other := Ne.symm plain.1
    by_cases ascii : c.toNat < 128
    · rw [percentDecode_cons ascii other, ih plain.2]
    · rw [percentDecode, percentDecodeFrom.eq_3 _ _ _ (fun _ _ _ same _ => other same),
        if_neg ascii]
      exact congrArg (List.cons c) (ih plain.2)

/-- Whether a character stands for itself. -/
def standsForItself (safe : Text) (c : Char) : Bool := isUnreserved c || List.contains safe c

/-- What another character is written as starts with a percent sign. -/
theorem flatMap_percentByte_eq_cons (c : Char) :
    ∃ rest, (String.utf8EncodeChar c).flatMap percentByte = '%' :: rest := by
  cases bytes : String.utf8EncodeChar c with
  | nil =>
    have size := congrArg List.length bytes
    rw [String.length_utf8EncodeChar] at size
    exact absurd size (Nat.ne_of_gt c.utf8Size_pos)
  | cons b bytes => exact ⟨_, rfl⟩

/-- **Encoding keeps and makes no beginning** whose characters stand for themselves and are no
percent signs. -/
theorem isPrefix_percentEncode {safe start : Text}
    (kept : ∀ c ∈ start, standsForItself safe c = true ∧ c ≠ '%') (t : Text) :
    start <+: percentEncode safe t ↔ start <+: t := by
  induction start generalizing t with
  | nil => simp
  | cons a start ih =>
    have others : ∀ c ∈ start, standsForItself safe c = true ∧ c ≠ '%' :=
      fun c member => kept c (List.mem_cons_of_mem a member)
    have first := kept a List.mem_cons_self
    cases t with
    | nil => exact Iff.rfl
    | cons c t =>
      unfold percentEncode
      rw [List.flatMap_cons]
      by_cases itself : standsForItself safe c = true
      · unfold standsForItself at itself
        rw [if_pos itself, List.singleton_append, List.cons_prefix_cons, List.cons_prefix_cons]
        exact and_congr_right fun _ => ih others t
      · obtain ⟨rest, escaped⟩ := flatMap_percentByte_eq_cons c
        have differs : a ≠ c := fun same => itself (same ▸ first.1)
        unfold standsForItself at itself
        rw [if_neg itself, escaped, List.cons_append, List.cons_prefix_cons, List.cons_prefix_cons]
        exact ⟨fun both => absurd both.1 first.2, fun both => absurd both.1 differs⟩

/-- Where the percent sign stands for itself, all characters of what is encoded do. -/
theorem standsForItself_of_mem_percentEncode {safe t : Text} (percent : '%' ∈ safe) {c : Char}
    (member : c ∈ percentEncode safe t) : standsForItself safe c = true := by
  have digits : ∀ n < 16, isUnreserved (hexUpper n) = true := by decide
  obtain ⟨d, -, inside⟩ := List.mem_flatMap.mp member
  by_cases itself : standsForItself safe d = true
  · rw [standsForItself] at itself
    rw [if_pos itself, List.mem_singleton] at inside
    rw [inside]
    exact itself
  · rw [standsForItself] at itself
    rw [if_neg itself] at inside
    obtain ⟨byte, -, escape⟩ := List.mem_flatMap.mp inside
    have small : byte.toNat < 256 := byte.toNat_lt
    simp only [percentByte, List.mem_cons, List.not_mem_nil, or_false] at escape
    unfold standsForItself
    rcases escape with rfl | rfl | rfl
    · rw [List.contains_iff_mem.mpr percent, Bool.or_true]
    · rw [digits _ (by omega), Bool.true_or]
    · rw [digits _ (by omega), Bool.true_or]

/-- A character that is begun gives a character in the end. -/
theorem decodeBytesFrom_some_ne_nil (begun : PendingChar) (bytes : List UInt8) :
    decodeBytesFrom (some begun) bytes ≠ [] := by
  induction bytes generalizing begun with
  | nil => simp [decodeBytesFrom]
  | cons b bytes ih =>
    rw [decodeBytesFrom]
    split
    · dsimp only
      split
      · simp
      · exact ih _
    · simp

/-- Bytes give characters. -/
theorem decodeBytes_ne_nil {bytes : List UInt8} (present : bytes ≠ []) :
    decodeBytes bytes ≠ [] := by
  obtain ⟨b, rest, rfl⟩ := List.exists_cons_of_ne_nil present
  rw [decodeBytes, decodeBytesFrom]
  have begins : (startChar b).1 ≠ [] ∨ ∃ begun, (startChar b).2 = some begun := by
    unfold startChar
    dsimp only
    repeat' split
    all_goals simp
  dsimp only
  rcases begins with text | ⟨begun, pending⟩
  · simp [text]
  · simp [pending, decodeBytesFrom_some_ne_nil]

/-- Decoding leaves something of what is something. -/
theorem percentDecodeFrom_ne_nil {pending : List UInt8} {t : Text}
    (present : pending ≠ [] ∨ t ≠ []) : percentDecodeFrom pending t ≠ [] := by
  induction pending, t using percentDecodeFrom.induct with
  | case1 pending =>
    rw [percentDecodeFrom]
    refine decodeBytes_ne_nil ?_
    simpa using present
  | case2 pending first second t high low isHigh isLow ih =>
    rw [percentDecodeFrom]
    simp only [isHigh, isLow]
    exact ih (.inl (by simp))
  | case3 pending first second t bad ih =>
    rw [percentDecodeFrom]
    split
    · rename_i high low isHigh isLow
      exact absurd isLow (bad high low isHigh)
    · exact ih (.inl (by simp))
  | case4 pending c t plain short ih =>
    rw [percentDecodeFrom.eq_3 _ _ _ plain, if_pos short]
    exact ih (.inl (by simp))
  | case5 pending c t plain long ih =>
    rw [percentDecodeFrom.eq_3 _ _ _ plain, if_neg long]
    simp

end MarkdownSite.Url
