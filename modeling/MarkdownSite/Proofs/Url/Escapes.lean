import MarkdownSite.Proofs.Text.Escape
import MarkdownSite.Proofs.Url.Percent
import MarkdownSite.Proofs.Url.Utf8
import MarkdownSite.Url.Percent

/-!
# Decoding what was encoded

Where the percent sign is not escaped, encoding leaves the escapes of a text alone, and decoding
reads them: a text comes back exactly if it has none. A character with a meaning of its own that is
neither a percent sign nor a digit is not lost when a text is decoded.
-/

namespace MarkdownSite.Url

open Text

/-! ## Escapes -/

/-- Whether a percent escape stands in a text: a percent sign and two hexadecimal digits. -/
def hasEscape : Text → Bool
  | [] => false
  | '%' :: a :: b :: t =>
    ((hexDigit? a).isSome && (hexDigit? b).isSome) || hasEscape (a :: b :: t)
  | _ :: t => hasEscape t

/-- The bytes of a text whose escapes are bytes; other characters give those of their UTF-8 form. -/
def unescapedBytes : Text → List UInt8
  | [] => []
  | '%' :: a :: b :: t =>
    match hexDigit? a, hexDigit? b with
    | some high, some low => UInt8.ofNat (high * 16 + low) :: unescapedBytes t
    | _, _ => 37 :: unescapedBytes (a :: b :: t)
  | c :: t => String.utf8EncodeChar c ++ unescapedBytes t

/-- The digits with which escapes are written are read. -/
theorem hexDigit?_hexUpper {n : Nat} (small : n < 16) : hexDigit? (hexUpper n) = some n := by
  have checked : ∀ n < 16, hexDigit? (hexUpper n) = some n := by decide
  exact checked n small

/-- Hexadecimal digits are not escaped. -/
theorem isUnreserved_of_hexDigit? {c : Char} (digit : (hexDigit? c).isSome = true) :
    isUnreserved c = true := by
  have small : c.toNat < 128 := by
    have bound {d : Char} (least : c ≤ d) (ascii : d.toNat < 128) : c.toNat < 128 :=
      Nat.lt_of_le_of_lt (UInt32.le_iff_toNat_le.mp least) ascii
    unfold hexDigit? at digit
    split at digit
    · rename_i range
      exact bound range.2 (by decide)
    · split at digit
      · rename_i range
        exact bound range.2 (by decide)
      · split at digit
        · rename_i range
          exact bound range.2 (by decide)
        · cases digit
  revert digit
  exact of_toNat_lt small (by decide)

/-! ## Reading on -/

/-- An escape gives its byte. -/
theorem percentDecodeFrom_escape {a b : Char} {high low : Nat} (first : hexDigit? a = some high)
    (second : hexDigit? b = some low) (pending : List UInt8) (t : Text) :
    percentDecodeFrom pending ('%' :: a :: b :: t) =
      percentDecodeFrom (UInt8.ofNat (high * 16 + low) :: pending) t := by
  rw [percentDecodeFrom]
  simp only [first, second]

/-- A percent sign before something else than two digits stands for itself. -/
theorem percentDecodeFrom_percent {t : Text}
    (plain : ∀ a b rest, t = a :: b :: rest → (hexDigit? a).isSome = true →
      (hexDigit? b).isSome = false) (pending : List UInt8) :
    percentDecodeFrom pending ('%' :: t) = percentDecodeFrom (37 :: pending) t := by
  match t with
  | [] => rfl
  | [a] => rfl
  | a :: b :: rest =>
    rw [percentDecodeFrom]
    split
    · rename_i high low first second
      have other := plain a b rest rfl (by rw [first]; rfl)
      rw [second] at other
      cases other
    · rfl

/-- An ASCII character that is no percent sign gives its byte. -/
theorem percentDecodeFrom_ascii {c : Char} (ascii : c.toNat < 128) (plain : c ≠ '%')
    (pending : List UInt8) (t : Text) :
    percentDecodeFrom pending (c :: t) =
      percentDecodeFrom (UInt8.ofNat c.toNat :: pending) t := by
  rw [percentDecodeFrom.eq_3 _ _ _ (fun _ _ _ same _ => plain same), if_pos ascii]

/-- The two digits with which a byte is escaped give it. -/
theorem percentByte_digits (b : UInt8) :
    hexDigit? (hexUpper (b.toNat / 16)) = some (b.toNat / 16) ∧
      hexDigit? (hexUpper (b.toNat % 16)) = some (b.toNat % 16) ∧
      UInt8.ofNat (b.toNat / 16 * 16 + b.toNat % 16) = b := by
  have small : b.toNat < 256 := b.toNat_lt
  refine ⟨hexDigit?_hexUpper (by omega), hexDigit?_hexUpper (by omega), ?_⟩
  rw [Nat.div_add_mod']
  exact UInt8.ofNat_toNat

/-- Bytes that are written as escapes are read. -/
theorem percentDecodeFrom_bytes (bytes pending : List UInt8) (t : Text) :
    percentDecodeFrom pending (bytes.flatMap percentByte ++ t) =
      percentDecodeFrom (bytes.reverse ++ pending) t := by
  induction bytes generalizing pending with
  | nil => rfl
  | cons b bytes ih =>
    obtain ⟨high, low, whole⟩ := percentByte_digits b
    rw [List.flatMap_cons, List.append_assoc]
    change percentDecodeFrom pending ('%' :: _ :: _ :: (bytes.flatMap percentByte ++ t)) = _
    rw [percentDecodeFrom_escape high low, whole, ih, List.reverse_cons, List.append_assoc,
      List.singleton_append]

/-- The UTF-8 form of an ASCII character is its number. -/
theorem utf8EncodeChar_of_ascii {c : Char} (ascii : c.toNat < 128) :
    String.utf8EncodeChar c = [UInt8.ofNat c.toNat] :=
  if_pos (Nat.le_of_lt_succ ascii)

/-- Letters and digits are ASCII. -/
theorem toNat_lt_of_isAlphanum {c : Char} (alphanumeric : c.isAlphanum = true) :
    c.toNat < 128 := by
  have small {greatest : UInt32} (inside : c.val ≤ greatest) (ascii : greatest.toNat < 128) :
      c.toNat < 128 :=
    Nat.lt_of_le_of_lt (UInt32.le_iff_toNat_le.mp inside) ascii
  rcases Bool.or_eq_true_iff.mp alphanumeric with letter | digit
  · rcases Bool.or_eq_true_iff.mp letter with upper | lower
    · exact small (of_decide_eq_true upper).2 (by decide)
    · exact small (of_decide_eq_true (Bool.and_eq_true_iff.mp lower).2) (by decide)
  · exact small (of_decide_eq_true (Bool.and_eq_true_iff.mp digit).2) (by decide)

/-- What stands for itself is ASCII. -/
theorem toNat_lt_of_standsForItself {safe : Text} (ascii : isAscii safe = true) {c : Char}
    (itself : standsForItself safe c = true) : c.toNat < 128 := by
  rcases Bool.or_eq_true_iff.mp itself with unreserved | listed
  · simp only [isUnreserved, Bool.or_eq_true, beq_iff_eq] at unreserved
    rcases unreserved with (((alphanumeric | rfl) | rfl) | rfl) | rfl
    · exact toNat_lt_of_isAlphanum alphanumeric
    all_goals decide
  · simpa using List.all_eq_true.mp ascii c (List.contains_iff_mem.mp listed)

/-! ## What is encoded -/

section Encoded

variable {safe : Text}

/-- A text is encoded character by character. -/
theorem percentEncode_cons (safe : Text) (c : Char) (t : Text) :
    percentEncode safe (c :: t) =
      (if standsForItself safe c then [c] else (String.utf8EncodeChar c).flatMap percentByte) ++
        percentEncode safe t :=
  List.flatMap_cons

/-- What an encoded text starts with is what the text starts with, or a percent sign. -/
theorem head_of_percentEncode {c : Char} {t rest : Text} (plain : c ≠ '%')
    (encoded : percentEncode safe t = c :: rest) :
    ∃ tail, t = c :: tail ∧ percentEncode safe tail = rest := by
  cases t with
  | nil => cases encoded
  | cons d tail =>
    rw [percentEncode_cons] at encoded
    split at encoded
    · cases encoded
      exact ⟨tail, rfl, rfl⟩
    · obtain ⟨others, escaped⟩ := flatMap_percentByte_eq_cons d
      rw [escaped] at encoded
      cases encoded
      exact absurd rfl plain

/-- Encoding makes no escape after a percent sign. -/
theorem digits_of_percentEncode {a b : Char} {t rest : Text}
    (encoded : percentEncode safe t = a :: b :: rest) (first : (hexDigit? a).isSome = true)
    (second : (hexDigit? b).isSome = true) : ∃ tail, t = a :: b :: tail := by
  have digit {c : Char} (read : (hexDigit? c).isSome = true) : c ≠ '%' := by
    rintro rfl
    cases read
  obtain ⟨others, rfl, following⟩ := head_of_percentEncode (digit first) encoded
  obtain ⟨tail, rfl, -⟩ := head_of_percentEncode (digit second) following
  exact ⟨tail, rfl⟩

/-- **Decoding reads the escapes that encoding leaves alone**, and all other characters as they
were. -/
theorem percentDecodeFrom_percentEncode (percent : '%' ∈ safe) (ascii : isAscii safe = true)
    (pending : List UInt8) (t : Text) :
    percentDecodeFrom pending (percentEncode safe t) =
      decodeBytes (pending.reverse ++ unescapedBytes t) := by
  have itself {c : Char} (digit : (hexDigit? c).isSome = true) : standsForItself safe c = true := by
    rw [standsForItself, isUnreserved_of_hexDigit? digit, Bool.true_or]
  have sign : standsForItself safe '%' = true := by
    rw [standsForItself, List.contains_iff_mem.mpr percent, Bool.or_true]
  induction t using unescapedBytes.induct generalizing pending with
  | case1 =>
    rw [unescapedBytes, List.append_nil]
    rfl
  | case2 a b t high low second first ih =>
    have one := itself (c := a) (by rw [first]; rfl)
    have other := itself (c := b) (by rw [second]; rfl)
    rw [percentEncode_cons, percentEncode_cons, percentEncode_cons, if_pos sign, if_pos one,
      if_pos other]
    change percentDecodeFrom pending ('%' :: a :: b :: percentEncode safe t) = _
    rw [percentDecodeFrom_escape first second, ih, unescapedBytes]
    simp [first, second]
  | case3 a b t bad ih =>
    -- two digits after the percent sign would have stood there before
    have plain : ∀ x y rest, percentEncode safe (a :: b :: t) = x :: y :: rest →
        (hexDigit? x).isSome = true → (hexDigit? y).isSome = false := by
      intro x y rest encoded first
      by_contra second
      rw [Bool.not_eq_false] at second
      obtain ⟨tail, same⟩ := digits_of_percentEncode encoded first second
      cases same
      obtain ⟨high, isHigh⟩ := Option.isSome_iff_exists.mp first
      obtain ⟨low, isLow⟩ := Option.isSome_iff_exists.mp second
      exact bad high low isHigh isLow
    rw [percentEncode_cons, if_pos sign, List.singleton_append, percentDecodeFrom_percent plain,
      ih, unescapedBytes]
    split
    · rename_i high low isHigh isLow
      exact absurd isLow (bad high low isHigh)
    · simp
  | case4 c t plain ih =>
    rw [unescapedBytes.eq_3 _ _ plain, percentEncode_cons]
    by_cases own : standsForItself safe c = true
    · have small := toNat_lt_of_standsForItself ascii own
      rw [if_pos own, List.singleton_append, utf8EncodeChar_of_ascii small]
      have read : percentDecodeFrom pending (c :: percentEncode safe t) =
          percentDecodeFrom (UInt8.ofNat c.toNat :: pending) (percentEncode safe t) := by
        by_cases same : c = '%'
        · subst same
          refine percentDecodeFrom_percent (fun x y rest encoded first => ?_) pending
          by_contra second
          rw [Bool.not_eq_false] at second
          obtain ⟨tail, rfl⟩ := digits_of_percentEncode encoded first second
          exact plain x y tail rfl rfl
        · exact percentDecodeFrom_ascii small same pending _
      rw [read, ih, List.reverse_cons, List.append_assoc]
    · rw [if_neg own, percentDecodeFrom_bytes, ih, List.reverse_append, List.reverse_reverse,
        List.append_assoc]

/-- A text that was encoded is decoded byte by byte. -/
theorem percentDecode_percentEncode (percent : '%' ∈ safe) (ascii : isAscii safe = true) (t : Text) :
    percentDecode (percentEncode safe t) = decodeBytes (unescapedBytes t) :=
  percentDecodeFrom_percentEncode percent ascii [] t

end Encoded

/-- Without escapes the bytes of a text give it back. -/
theorem decodeBytes_unescapedBytes {t : Text} (plain : hasEscape t = false) :
    decodeBytes (unescapedBytes t) = t := by
  unfold decodeBytes
  induction t using unescapedBytes.induct with
  | case1 => rfl
  | case2 a b t high low second first ih =>
    rw [hasEscape, first, second] at plain
    cases plain
  | case3 a b t bad ih =>
    rw [hasEscape, Bool.or_eq_false_iff] at plain
    have sign := decodeBytesFrom_utf8EncodeChar goesOn_none '%' (unescapedBytes (a :: b :: t))
    rw [unescapedBytes]
    split
    · rename_i high low isHigh isLow
      exact absurd isLow (bad high low isHigh)
    · exact sign.trans (congrArg (List.cons '%') (ih plain.2))
  | case4 c t other ih =>
    rw [hasEscape.eq_3 _ _ other] at plain
    rw [unescapedBytes.eq_3 _ _ other, decodeBytesFrom_utf8EncodeChar goesOn_none, ih plain]
    rfl

/-- The bytes of a text give no more characters than it has, and less if it has an escape. -/
theorem length_decode_unescapedBytes {begun : Option PendingChar} (further : GoesOn begun)
    (t : Text) :
    (decodeBytesFrom begun (unescapedBytes t)).length + (hasEscape t).toNat ≤
      t.length + (broken begun).length := by
  -- a character begun counts as the one that it will give, whole or broken
  induction t using unescapedBytes.induct generalizing begun with
  | case1 =>
    rw [unescapedBytes, decodeBytesFrom_nil, hasEscape]
    simp
  | case2 a b t high low second first ih =>
    have byte := length_feed_le begun (UInt8.ofNat (high * 16 + low))
    have later := ih (goesOn_feed begun (UInt8.ofNat (high * 16 + low)))
    have one : (hasEscape ('%' :: a :: b :: t)).toNat ≤ 1 := Bool.toNat_le _
    rw [unescapedBytes]
    simp only [first, second, decodeBytesFrom_cons, List.length_append, List.length_cons]
    omega
  | case3 a b t bad ih =>
    have sign := decodeBytesFrom_utf8EncodeChar further '%' (unescapedBytes (a :: b :: t))
    have later := ih goesOn_none
    have same : hasEscape ('%' :: a :: b :: t) = hasEscape (a :: b :: t) := by
      rw [hasEscape]
      cases first : hexDigit? a with
      | none => rfl
      | some high =>
        cases second : hexDigit? b with
        | none => rfl
        | some low => exact absurd second (bad high low first)
    rw [unescapedBytes, same]
    split
    · rename_i high low isHigh isLow
      exact absurd isLow (bad high low isHigh)
    · have whole := congrArg List.length sign
      rw [List.length_append, List.length_cons] at whole
      change (decodeBytesFrom begun (37 :: unescapedBytes (a :: b :: t))).length = _ at whole
      rw [List.length_cons]
      change _ ≤ _ + 0 at later
      omega
  | case4 c t other ih =>
    have later := ih goesOn_none
    change _ ≤ _ + 0 at later
    rw [hasEscape.eq_3 _ _ other, unescapedBytes.eq_3 _ _ other,
      decodeBytesFrom_utf8EncodeChar further, List.length_append, List.length_cons, List.length_cons]
    omega

section Encoded

variable {safe : Text}

/-- Decoding makes nothing longer than what was encoded, and what has an escape shorter. -/
theorem length_percentDecode_percentEncode (percent : '%' ∈ safe) (ascii : isAscii safe = true)
    (t : Text) :
    (percentDecode (percentEncode safe t)).length + (hasEscape t).toNat ≤ t.length := by
  rw [percentDecode_percentEncode percent ascii]
  exact length_decode_unescapedBytes goesOn_none t

/-- What is decoded to a text that is as long as what was encoded had no escape. -/
theorem hasEscape_eq_false_of_length (percent : '%' ∈ safe) (ascii : isAscii safe = true) {t : Text}
    (long : t.length ≤ (percentDecode (percentEncode safe t)).length) : hasEscape t = false := by
  have bound := length_percentDecode_percentEncode percent ascii t
  cases escape : hasEscape t with
  | false => rfl
  | true =>
    rw [escape, Bool.toNat_true] at bound
    omega

/-- **What is encoded comes back exactly if it has no escape.** -/
theorem percentDecode_percentEncode_eq_iff (percent : '%' ∈ safe) (ascii : isAscii safe = true)
    (t : Text) : percentDecode (percentEncode safe t) = t ↔ hasEscape t = false := by
  constructor
  · intro same
    exact hasEscape_eq_false_of_length percent ascii (Nat.le_of_eq (congrArg List.length same.symm))
  · intro plain
    rw [percentDecode_percentEncode percent ascii]
    exact decodeBytes_unescapedBytes plain

end Encoded

/-- A text without percent signs has no escape. -/
theorem hasEscape_of_not_mem {t : Text} (plain : '%' ∉ t) : hasEscape t = false := by
  induction t using hasEscape.induct with
  | case1 => rfl
  | case2 a b t ih => exact absurd List.mem_cons_self plain
  | case3 c t other ih =>
    rw [hasEscape.eq_3 _ _ other]
    exact ih fun member => plain (List.mem_cons_of_mem c member)

/-- A target with neither escapes nor references leads where the document says. -/
theorem percentDecode_target {t : Text} (escapes : '%' ∉ t) (references : '&' ∉ t) :
    percentDecode (target t) = t := by
  rw [target, decodeStrictEntities, markdownReferences.decode_of_not_mem references]
  exact (percentDecode_percentEncode_eq_iff (by decide) (by decide) t).mpr
    (hasEscape_of_not_mem escapes)

/-! ## Marks -/

section Mark

variable {c : Char}

/-- Decoding loses no ASCII character but percent signs and digits. -/
theorem count_le_count_percentDecodeFrom (ascii : c.toNat < 128) (noDigit : hexDigit? c = none)
    (plain : c ≠ '%') (pending : List UInt8) (t : Text) :
    pending.count (UInt8.ofNat c.toNat) + t.count c ≤ (percentDecodeFrom pending t).count c := by
  have number : (UInt8.ofNat c.toNat).toNat = c.toNat := toNat_byte (by omega)
  have read (bytes : List UInt8) :
      bytes.count (UInt8.ofNat c.toNat) ≤ (decodeBytes bytes.reverse).count c := by
    have kept := count_le_count_decodeBytesFrom (b := UInt8.ofNat c.toNat) (by omega) goesOn_none
      bytes.reverse
    rwa [List.count_reverse, number, Char.ofNat_toNat] at kept
  induction pending, t using percentDecodeFrom.induct with
  | case1 pending => exact read pending
  | case2 pending a b t high low isLow isHigh ih =>
    have first : a ≠ c := fun same => by cases noDigit.symm.trans (same ▸ isHigh)
    have second : b ≠ c := fun same => by cases noDigit.symm.trans (same ▸ isLow)
    rw [percentDecodeFrom_escape isHigh isLow, List.count_cons_of_ne (Ne.symm plain),
      List.count_cons_of_ne first, List.count_cons_of_ne second]
    exact Nat.le_trans (Nat.add_le_add_right List.count_le_count_cons _) ih
  | case3 pending a b t bad ih =>
    have read : percentDecodeFrom pending ('%' :: a :: b :: t) =
        percentDecodeFrom (37 :: pending) (a :: b :: t) := by
      rw [percentDecodeFrom]
      split
      · rename_i high low isHigh isLow
        exact absurd isLow (bad high low isHigh)
      · rfl
    rw [read, List.count_cons_of_ne (Ne.symm plain)]
    exact Nat.le_trans (Nat.add_le_add_right List.count_le_count_cons _) ih
  | case4 pending d t other short ih =>
    rw [percentDecodeFrom.eq_3 _ _ _ other, if_pos short]
    refine Nat.le_trans ?_ ih
    by_cases same : d = c
    · rw [same, List.count_cons_self, List.count_cons_self]
      omega
    · rw [List.count_cons_of_ne same]
      exact Nat.add_le_add_right List.count_le_count_cons _
  | case5 pending d t other long ih =>
    have apart : d ≠ c := fun same => long (same ▸ ascii)
    have before := read pending
    rw [percentDecodeFrom.eq_3 _ _ _ other, if_neg long, List.count_append,
      List.count_cons_of_ne apart, List.count_cons_of_ne apart]
    rw [List.count_nil] at ih
    omega

/-- Decoding loses no ASCII character but percent signs and digits. -/
theorem count_le_count_percentDecode (ascii : c.toNat < 128) (noDigit : hexDigit? c = none)
    (plain : c ≠ '%') (t : Text) : t.count c ≤ (percentDecode t).count c := by
  have kept := count_le_count_percentDecodeFrom ascii noDigit plain [] t
  rwa [List.count_nil, Nat.zero_add] at kept

/-- Escapes have percent signs and digits only. -/
theorem not_mem_flatMap_percentByte (noDigit : hexDigit? c = none) (plain : c ≠ '%')
    (bytes : List UInt8) : c ∉ bytes.flatMap percentByte := by
  intro member
  obtain ⟨b, -, inside⟩ := List.mem_flatMap.mp member
  have small : b.toNat < 256 := b.toNat_lt
  simp only [percentByte, List.mem_cons, List.not_mem_nil, or_false] at inside
  rcases inside with rfl | rfl | rfl
  · exact plain rfl
  · rw [hexDigit?_hexUpper (by omega)] at noDigit
    cases noDigit
  · rw [hexDigit?_hexUpper (by omega)] at noDigit
    cases noDigit

/-- Another character is encoded without a character that belongs to no escape. -/
theorem not_mem_encoded_char (noDigit : hexDigit? c = none) (plain : c ≠ '%') (safe : Text)
    {d : Char} (other : d ≠ c) :
    c ∉ if standsForItself safe d then [d] else (String.utf8EncodeChar d).flatMap percentByte := by
  split
  · rw [List.mem_singleton]
    exact Ne.symm other
  · exact not_mem_flatMap_percentByte noDigit plain _

/-- A character of an encoded text that belongs to no escape stood in the text, between what was
encoded before and after it. -/
theorem percentEncode_eq_append_cons {safe : Text} (noDigit : hexDigit? c = none) (plain : c ≠ '%')
    {t before after : Text} (encoded : percentEncode safe t = before ++ c :: after) :
    ∃ s u, t = s ++ c :: u ∧ percentEncode safe s = before ∧ percentEncode safe u = after := by
  induction t generalizing before with
  | nil => simp [percentEncode] at encoded
  | cons d t ih =>
    rw [percentEncode_cons] at encoded
    rcases List.append_eq_append_iff.mp encoded with ⟨first, rfl, rest⟩ | ⟨first, own, rest⟩
    · obtain ⟨s, u, rfl, written, following⟩ := ih rest
      exact ⟨d :: s, u, rfl, by rw [percentEncode_cons, written], following⟩
    · cases first with
      | nil =>
        rw [List.nil_append] at rest
        have later : percentEncode safe t = [] ++ c :: after := rest.symm
        obtain ⟨s, u, rfl, written, following⟩ := ih later
        refine ⟨d :: s, u, rfl, ?_, following⟩
        rw [percentEncode_cons, written, List.append_nil, own, List.append_nil]
      | cons e first =>
        obtain ⟨rfl, following⟩ := List.cons.inj rest
        split at own
        · cases before with
          | nil =>
            cases own
            exact ⟨[], t, rfl, rfl, following.symm⟩
          | cons f before => simp at own
        · have escaped : c ∈ (String.utf8EncodeChar d).flatMap percentByte := by
            rw [own]
            simp
          exact absurd escaped (not_mem_flatMap_percentByte noDigit plain _)

/-- Encoding keeps how often a character stands in a text that stands for itself and belongs to no
escape. -/
theorem count_percentEncode {safe : Text} (noDigit : hexDigit? c = none) (plain : c ≠ '%')
    (itself : standsForItself safe c = true) (t : Text) :
    (percentEncode safe t).count c = t.count c := by
  induction t with
  | nil => rfl
  | cons d t ih =>
    rw [percentEncode_cons, List.count_append, ih]
    by_cases same : d = c
    · rw [same, if_pos itself, List.count_singleton_self, List.count_cons_self, Nat.add_comm]
    · have absent := not_mem_encoded_char noDigit plain safe same
      rw [List.count_eq_zero_of_not_mem absent, List.count_cons_of_ne same, Nat.zero_add]

/-- A character that stands for itself and belongs to no escape is in what is encoded exactly if it
is in the text. -/
theorem mem_percentEncode_iff {safe : Text} (noDigit : hexDigit? c = none) (plain : c ≠ '%')
    (itself : standsForItself safe c = true) {t : Text} : c ∈ percentEncode safe t ↔ c ∈ t := by
  rw [← List.count_pos_iff, ← List.count_pos_iff, count_percentEncode noDigit plain itself]

/-- What is encoded up to such a character is the text up to it, encoded. -/
theorem takeWhile_percentEncode {safe : Text} (noDigit : hexDigit? c = none) (plain : c ≠ '%')
    (itself : standsForItself safe c = true) (t : Text) :
    (percentEncode safe t).takeWhile (· != c) = percentEncode safe (t.takeWhile (· != c)) := by
  induction t with
  | nil => rfl
  | cons d t ih =>
    by_cases same : d = c
    · rw [percentEncode_cons, same, if_pos itself, List.singleton_append,
        List.takeWhile_cons_of_neg (by simp), List.takeWhile_cons_of_neg (by simp)]
      rfl
    · have others : ∀ e ∈ if standsForItself safe d then [d]
          else (String.utf8EncodeChar d).flatMap percentByte, (e != c) = true :=
        fun e member => bne_iff_ne.mpr fun equal =>
          not_mem_encoded_char noDigit plain safe same (equal ▸ member)
      have first : (d != c) = true := bne_iff_ne.mpr same
      rw [percentEncode_cons, List.takeWhile_append_of_pos others, ih, List.takeWhile_cons,
        if_pos first, percentEncode_cons]

end Mark

/-! ## Texts that are encoded as they are -/

/-- Nothing is all that is encoded as nothing. -/
theorem percentEncode_eq_nil_iff {safe t : Text} : percentEncode safe t = [] ↔ t = [] := by
  constructor
  · intro none
    cases t with
    | nil => rfl
    | cons c t =>
      rw [percentEncode_cons, List.append_eq_nil_iff] at none
      obtain ⟨rest, escaped⟩ := flatMap_percentByte_eq_cons c
      rw [escaped] at none
      split at none <;> cases none.1
  · rintro rfl
    rfl

/-- Two texts are encoded one after the other. -/
theorem percentEncode_append (safe s t : Text) :
    percentEncode safe (s ++ t) = percentEncode safe s ++ percentEncode safe t :=
  List.flatMap_append

/-- Where the percent sign stands for itself, a text has as many of them when it is encoded, and one
at least for each character that is escaped. -/
theorem count_percent_percentEncode {safe : Text} (percent : '%' ∈ safe) (t : Text) :
    t.count '%' + t.countP (fun c => !standsForItself safe c) ≤
      (percentEncode safe t).count '%' := by
  have sign : standsForItself safe '%' = true := by
    rw [standsForItself, List.contains_iff_mem.mpr percent, Bool.or_true]
  induction t with
  | nil => exact Nat.le_refl _
  | cons c t ih =>
    rw [percentEncode_cons, List.count_append]
    by_cases itself : standsForItself safe c = true
    · rw [if_pos itself, List.countP_cons_of_neg (by simp [itself]), List.count_cons,
        List.count_singleton]
      omega
    · obtain ⟨rest, escaped⟩ := flatMap_percentByte_eq_cons c
      have other : c ≠ '%' := fun same => itself (same ▸ sign)
      rw [if_neg itself, escaped, List.count_cons_self, List.count_cons_of_ne other,
        List.countP_cons_of_pos (by simp [itself])]
      omega

/-- A text of characters that stand for themselves is encoded as it is. -/
theorem percentEncode_eq_self {safe t : Text} (itself : ∀ c ∈ t, standsForItself safe c = true) :
    percentEncode safe t = t := by
  induction t with
  | nil => rfl
  | cons c t ih =>
    rw [percentEncode_cons, if_pos (itself c List.mem_cons_self), List.singleton_append,
      ih fun d member => itself d (List.mem_cons_of_mem c member)]

/-- A text has nothing to escape if it has as many percent signs as are left when it is encoded. -/
theorem standsForItself_of_count_le {safe t : Text} (percent : '%' ∈ safe)
    (kept : (percentEncode safe t).count '%' ≤ t.count '%') :
    ∀ c ∈ t, standsForItself safe c = true := by
  have signs := count_percent_percentEncode percent t
  have none : t.countP (fun c => !standsForItself safe c) = 0 := by omega
  intro c member
  simpa using List.countP_eq_zero.mp none c member

/-- What is encoded without percent signs is the text, where the percent sign stands for itself. -/
theorem percentEncode_eq_self_of_not_mem {safe t : Text} (percent : '%' ∈ safe)
    (absent : '%' ∉ percentEncode safe t) : percentEncode safe t = t := by
  refine percentEncode_eq_self (standsForItself_of_count_le percent ?_)
  rw [List.count_eq_zero_of_not_mem absent]
  exact Nat.zero_le _

end MarkdownSite.Url
