import MarkdownSite.Proofs.Url.Tail

/-!
# What is written, read and written again

A part that was written is read with all its escapes, those among them that stood in the part, and
is written again. It stays as it is exactly if each escape that stood in it is one that writing
makes of some character: another escape is gone, or spelled in another way.
-/

namespace MarkdownSite.Url

open Text

/-! ## Spelling -/

/-- What a part says when it is written and read again. -/
def reread (t : Text) : Text := percentDecode (written t)

/-- The escapes with which a character is written that does not stand for itself. -/
def escapes (c : Char) : Text := (String.utf8EncodeChar c).flatMap percentByte

/-- Whether an escape stands at the start of a text. -/
def startsEscape : Text → Bool
  | '%' :: a :: b :: _ => (hexDigit? a).isSome && (hexDigit? b).isSome
  | _ => false

/-- The escapes of a text are those with which its characters would be written: each belongs to a
character that does not stand for itself. -/
inductive Spelled : Text → Prop
  /-- Nothing is spelled. -/
  | nil : Spelled []
  /-- A character that starts no escape is spelled as it is. -/
  | char {c : Char} {t : Text} (plain : startsEscape (c :: t) = false) (rest : Spelled t) :
      Spelled (c :: t)
  /-- The escapes of a character are spelled as they are written. -/
  | escapes {c : Char} {t : Text} (foreign : standsForItself safeCharacters c = false)
      (rest : Spelled t) : Spelled (escapes c ++ t)

/-- A character is written before the rest of a part. -/
theorem written_cons (c : Char) (t : Text) :
    written (c :: t) =
      (if standsForItself safeCharacters c then [c] else escapes c) ++ written t :=
  percentEncode_cons safeCharacters c t

/-- Two parts are written one after the other. -/
theorem written_append (s t : Text) : written (s ++ t) = written s ++ written t :=
  percentEncode_append safeCharacters s t

/-- A text has an escape at its start or further on. -/
theorem hasEscape_cons (c : Char) (t : Text) :
    hasEscape (c :: t) = (startsEscape (c :: t) || hasEscape t) := by
  by_cases percent : c = '%'
  · subst percent
    match t with
    | [] | [_] | _ :: _ :: _ => rfl
  · rw [hasEscape.eq_3 _ _ fun _ _ _ same _ => percent same]
    unfold startsEscape
    split
    · rename_i same
      exact absurd (List.cons.inj same).1 percent
    · rfl

/-- No escape starts with another character. -/
theorem startsEscape_of_ne {c : Char} (plain : c ≠ '%') (t : Text) :
    startsEscape (c :: t) = false := by
  unfold startsEscape
  split
  · rename_i same
    exact absurd (List.cons.inj same).1 plain
  · rfl

/-- An escape is a percent sign and two digits. -/
theorem startsEscape_iff {c : Char} {t : Text} :
    startsEscape (c :: t) = true ↔ ∃ a b rest, c = '%' ∧ t = a :: b :: rest ∧
      (hexDigit? a).isSome = true ∧ (hexDigit? b).isSome = true := by
  unfold startsEscape
  constructor
  · intro starts
    split at starts
    · rename_i a b rest same
      cases same
      exact ⟨a, b, rest, rfl, rfl, Bool.and_eq_true_iff.mp starts⟩
    · cases starts
  · rintro ⟨a, b, rest, rfl, rfl, digits⟩
    exact Bool.and_eq_true_iff.mpr digits

/-- Writing neither makes nor takes away the digits of an escape. -/
theorem startsEscape_written (c : Char) (t : Text) :
    startsEscape (c :: written t) = startsEscape (c :: t) := by
  have itself {d : Char} (digit : (hexDigit? d).isSome = true) :
      standsForItself safeCharacters d = true := by
    rw [standsForItself, isUnreserved_of_hexDigit? digit, Bool.true_or]
  rw [Bool.eq_iff_iff, startsEscape_iff, startsEscape_iff]
  constructor
  · rintro ⟨a, b, rest, percent, digits, first, second⟩
    obtain ⟨tail, same⟩ := digits_of_percentEncode digits first second
    exact ⟨a, b, tail, percent, same, first, second⟩
  · rintro ⟨a, b, rest, percent, rfl, first, second⟩
    refine ⟨a, b, written rest, percent, ?_, first, second⟩
    rw [written_cons, written_cons, itself first, itself second]
    rfl

/-- The bytes of a character that starts no escape come first. -/
theorem unescapedBytes_cons {c : Char} {t : Text} (plain : startsEscape (c :: t) = false) :
    unescapedBytes (c :: t) = String.utf8EncodeChar c ++ unescapedBytes t := by
  by_cases shape : ∃ a b rest, c = '%' ∧ t = a :: b :: rest
  · obtain ⟨a, b, rest, rfl, rfl⟩ := shape
    simp only [startsEscape, Bool.and_eq_false_iff, Option.isSome_eq_false_iff,
      Option.isNone_iff_eq_none] at plain
    rw [unescapedBytes]
    split
    · rename_i high low isHigh isLow
      rw [isHigh, isLow] at plain
      rcases plain with none | none <;> cases none
    · rfl
  · exact unescapedBytes.eq_3 _ _ fun a b rest percent others =>
      shape ⟨a, b, rest, percent, others⟩

/-- Bytes that are written as escapes come first. -/
theorem unescapedBytes_flatMap (bytes : List UInt8) (t : Text) :
    unescapedBytes (bytes.flatMap percentByte ++ t) = bytes ++ unescapedBytes t := by
  induction bytes with
  | nil => rfl
  | cons b bytes ih =>
    obtain ⟨high, low, whole⟩ := percentByte_digits b
    rw [List.flatMap_cons, List.append_assoc]
    change unescapedBytes ('%' :: _ :: _ :: (bytes.flatMap percentByte ++ t)) = _
    rw [unescapedBytes]
    simp only [high, low, whole, ih, List.cons_append]

/-- A part is read byte by byte when it was written. -/
theorem reread_eq (t : Text) : reread t = decodeBytes (unescapedBytes t) :=
  percentDecode_percentEncode (by decide) (by decide) t

/-- A character that starts no escape is read again. -/
theorem reread_cons {c : Char} {t : Text} (plain : startsEscape (c :: t) = false) :
    reread (c :: t) = c :: reread t := by
  rw [reread_eq, reread_eq, unescapedBytes_cons plain]
  exact decodeBytesFrom_none_utf8EncodeChar c (unescapedBytes t)

/-- The escapes of a character are read as the character. -/
theorem reread_escapes (c : Char) (t : Text) : reread (escapes c ++ t) = c :: reread t := by
  rw [reread_eq, reread_eq, escapes, unescapedBytes_flatMap]
  exact decodeBytesFrom_none_utf8EncodeChar c (unescapedBytes t)

/-- The escapes of a character are not escaped. -/
theorem written_escapes {c : Char} (foreign : standsForItself safeCharacters c = false) (t : Text) :
    written (escapes c ++ t) = escapes c ++ written t := by
  have alone : percentEncode safeCharacters [c] = escapes c := by
    rw [percentEncode_cons, foreign]
    exact List.append_nil _
  have itself : ∀ d ∈ escapes c, standsForItself safeCharacters d = true := by
    rw [← alone]
    exact fun d member => standsForItself_of_mem_percentEncode (by decide) member
  rw [written_append, written, percentEncode_eq_self itself]

/-- What is spelled as it would be written is written again as it was. -/
theorem Spelled.written_reread {t : Text} (spelled : Spelled t) :
    written (reread t) = written t := by
  induction spelled with
  | nil => rfl
  | char plain rest ih => rw [reread_cons plain, written_cons, written_cons, ih]
  | escapes foreign rest ih =>
    rw [reread_escapes, written_cons, foreign, written_escapes foreign, ih]
    rfl

/-! ## Escapes that were written -/

/-- The escape of a byte tells it. -/
theorem percentByte_inj {a b : UInt8} {s t : Text}
    (same : percentByte a ++ s = percentByte b ++ t) : a = b := by
  have first := unescapedBytes_flatMap [a] s
  have second := unescapedBytes_flatMap [b] t
  rw [List.flatMap_singleton] at first second
  rw [same, second] at first
  exact (List.cons.inj first).1.symm

/-- What starts with the escape of a byte when it is written starts with it, or with a character
whose first byte it is. -/
theorem written_eq_percentByte {b : UInt8} {t rest : Text}
    (same : written t = percentByte b ++ rest) :
    (∃ tail, t = percentByte b ++ tail ∧ written tail = rest) ∨
      ∃ c tail bytes, t = c :: tail ∧ standsForItself safeCharacters c = false ∧
        String.utf8EncodeChar c = b :: bytes := by
  have digit {c : Char} {n : Nat} (read : hexDigit? c = some n) : c ≠ '%' := by
    rintro rfl
    cases read
  obtain ⟨high, low, -⟩ := percentByte_digits b
  cases t with
  | nil => cases same
  | cons c t =>
    rw [written_cons] at same
    split at same
    · left
      obtain rfl : c = '%' := (List.cons.inj same).1
      have digits : percentEncode safeCharacters t =
          hexUpper (b.toNat / 16) :: hexUpper (b.toNat % 16) :: rest := (List.cons.inj same).2
      obtain ⟨others, rfl, one⟩ := head_of_percentEncode (digit high) digits
      obtain ⟨tail, rfl, later⟩ := head_of_percentEncode (digit low) one
      exact ⟨tail, rfl, later⟩
    · rename_i foreign
      right
      obtain ⟨d, bytes, whole, -⟩ := utf8EncodeChar_head c
      rw [escapes, whole, List.flatMap_cons, List.append_assoc] at same
      rw [percentByte_inj same] at whole
      exact ⟨c, t, bytes, rfl, Bool.eq_false_iff.mpr foreign, whole⟩

/-- All bytes of a character but the first go on with it. -/
theorem utf8EncodeChar_tail (c : Char) :
    ∀ b ∈ (String.utf8EncodeChar c).tail, 0x80 ≤ b.toNat ∧ b.toNat ≤ 0xBF := by
  have further {n : Nat} (least : 0x80 ≤ n) (greatest : n ≤ 0xBF) :
      0x80 ≤ (UInt8.ofNat n).toNat ∧ (UInt8.ofNat n).toNat ≤ 0xBF := by
    rw [toNat_byte (by omega)]
    exact ⟨least, greatest⟩
  unfold String.utf8EncodeChar
  dsimp only
  split
  · simp
  · repeat' split
    all_goals
      intro b member
      simp only [List.tail_cons, List.mem_cons, List.not_mem_nil, or_false] at member
      rcases member with rfl | rfl | rfl | rfl <;> exact further (by omega) (by omega)

/-- Escapes of bytes that go on with a character stood in the text. -/
theorem written_eq_flatMap {bytes : List UInt8}
    (further : ∀ b ∈ bytes, 0x80 ≤ b.toNat ∧ b.toNat ≤ 0xBF) {t rest : Text}
    (same : written t = bytes.flatMap percentByte ++ rest) :
    ∃ tail, t = bytes.flatMap percentByte ++ tail ∧ written tail = rest := by
  induction bytes generalizing t with
  | nil => exact ⟨t, rfl, same⟩
  | cons b bytes ih =>
    rw [List.flatMap_cons, List.append_assoc] at same
    rcases written_eq_percentByte same with ⟨tail, rfl, later⟩ | ⟨c, tail, others, -, -, first⟩
    · obtain ⟨more, rfl, ends⟩ :=
        ih (fun d member => further d (List.mem_cons_of_mem b member)) later
      exact ⟨more, by rw [List.flatMap_cons, List.append_assoc], ends⟩
    · obtain ⟨d, more, bytes, starts⟩ := utf8EncodeChar_head c
      rw [first] at bytes
      obtain rfl : b = d := (List.cons.inj bytes).1
      have range := further b List.mem_cons_self
      omega

/-- The escapes of a character stood in a text that starts with a character that stands for
itself. -/
theorem written_eq_escapes {d e : Char} {t rest : Text}
    (itself : standsForItself safeCharacters e = true)
    (same : written (e :: t) = escapes d ++ rest) :
    ∃ tail, e :: t = escapes d ++ tail ∧ written tail = rest := by
  obtain ⟨b, bytes, whole, -⟩ := utf8EncodeChar_head d
  have further := utf8EncodeChar_tail d
  rw [whole, List.tail_cons] at further
  have parts : escapes d = percentByte b ++ bytes.flatMap percentByte := by
    rw [escapes, whole, List.flatMap_cons]
  rw [parts, List.append_assoc] at same
  rw [parts]
  rcases written_eq_percentByte same with
    ⟨others, starts, later⟩ | ⟨c, others, -, starts, foreign, -⟩
  · obtain ⟨tail, rfl, ends⟩ := written_eq_flatMap further later
    exact ⟨tail, by rw [starts, List.append_assoc], ends⟩
  · cases starts
    cases itself.symm.trans foreign

/-- What is written like a text without escapes is spelled as it would be written. -/
theorem spelled_of_written_eq {u t : Text} (plain : hasEscape u = false)
    (same : written u = written t) : Spelled t := by
  induction u generalizing t with
  | nil =>
    obtain rfl : t = [] := written_eq_nil_iff.mp same.symm
    exact .nil
  | cons d u ih =>
    have own : reread (d :: u) = d :: u := (percentDecode_written_eq_iff _).mpr plain
    rw [hasEscape_cons, Bool.or_eq_false_iff] at plain
    cases t with
    | nil => cases written_eq_nil_iff.mp same
    | cons e t =>
      cases itself : standsForItself safeCharacters e with
      | false =>
        -- both are read again, the one without escapes as it is
        have first : e ≠ '%' := by
          rintro rfl
          cases itself
        have read : reread (d :: u) = e :: reread t :=
          (congrArg percentDecode same).trans (reread_cons (startsEscape_of_ne first t))
        obtain rfl : d = e := (List.cons.inj (own.symm.trans read)).1
        rw [written_cons, written_cons] at same
        exact .char (startsEscape_of_ne first t) (ih plain.2 (List.append_cancel_left same))
      | true =>
        cases foreign : standsForItself safeCharacters d with
        | true =>
          rw [written_cons, written_cons, itself, foreign] at same
          have rest : written u = written t := (List.cons.inj same).2
          obtain rfl : d = e := (List.cons.inj same).1
          refine .char ?_ (ih plain.2 rest)
          rw [← startsEscape_written, ← rest, startsEscape_written, plain.1]
        | false =>
          have whole := same.symm
          rw [written_cons d u, foreign, if_neg Bool.false_ne_true] at whole
          obtain ⟨tail, spelled, ends⟩ := written_eq_escapes itself whole
          rw [spelled]
          exact .escapes foreign (ih plain.2 ends.symm)

/-- **What was written, read and written again is as it was exactly if it is spelled as it would be
written.** -/
theorem written_reread_iff (t : Text) : written (reread t) = written t ↔ Spelled t := by
  constructor
  · intro same
    have again : percentDecode (written (reread t)) = reread t := congrArg percentDecode same
    exact spelled_of_written_eq ((percentDecode_written_eq_iff _).mp again) same
  · exact Spelled.written_reread

/-! ## Parts that are put together -/

/-- An ASCII byte divides what is read. -/
theorem decodeBytesFrom_append_cons {b : UInt8} (ascii : b.toNat < 0x80)
    {begun : Option PendingChar} (further : GoesOn begun) (before after : List UInt8) :
    decodeBytesFrom begun (before ++ b :: after) =
      decodeBytesFrom begun before ++ Char.ofNat b.toNat :: decodeBytesFrom none after := by
  induction before generalizing begun with
  | nil =>
    rw [List.nil_append, decodeBytesFrom_cons, feed_of_start further (.inl ascii),
      startChar_of_ascii ascii, decodeBytesFrom_nil, List.append_assoc]
    rfl
  | cons a before ih =>
    rw [List.cons_append, decodeBytesFrom_cons, decodeBytesFrom_cons,
      ih (goesOn_feed begun a), List.append_assoc]

section Mark

variable {c : Char}

/-- An escape before a mark ends before it. -/
theorem startsEscape_append (mark : endsAuthority c = true) (d : Char) (s t : Text) :
    startsEscape (d :: (s ++ c :: t)) = startsEscape (d :: s) := by
  have noDigit : ¬(hexDigit? c).isSome = true := by
    rw [(mark_plain mark).2.1]
    exact Bool.false_ne_true
  rw [Bool.eq_iff_iff, startsEscape_iff, startsEscape_iff]
  constructor
  · rintro ⟨a, b, rest, percent, whole, first, second⟩
    match s with
    | [] =>
      cases whole
      exact absurd first noDigit
    | [_] =>
      cases whole
      exact absurd second noDigit
    | _ :: _ :: others =>
      cases whole
      exact ⟨a, b, others, percent, rfl, first, second⟩
  · rintro ⟨a, b, rest, percent, rfl, digits⟩
    exact ⟨a, b, rest ++ c :: t, percent, rfl, digits⟩

/-- The bytes before a mark, of the mark and after it come in order. -/
theorem unescapedBytes_append_cons (mark : endsAuthority c = true) (s t : Text) :
    unescapedBytes (s ++ c :: t) =
      unescapedBytes s ++ UInt8.ofNat c.toNat :: unescapedBytes t := by
  obtain ⟨ascii, -, plain, -⟩ := mark_plain mark
  have further {d : Char} {s : Text} (none : startsEscape (d :: s) = false)
      (ih : unescapedBytes (s ++ c :: t) =
        unescapedBytes s ++ UInt8.ofNat c.toNat :: unescapedBytes t) :
      unescapedBytes (d :: s ++ c :: t) =
        unescapedBytes (d :: s) ++ UInt8.ofNat c.toNat :: unescapedBytes t := by
    have still : startsEscape (d :: (s ++ c :: t)) = false := by
      rw [startsEscape_append mark, none]
    rw [List.cons_append, unescapedBytes_cons still, unescapedBytes_cons none, ih,
      List.append_assoc]
  induction s using unescapedBytes.induct with
  | case1 =>
    rw [List.nil_append, unescapedBytes_cons (startsEscape_of_ne plain t),
      utf8EncodeChar_of_ascii ascii]
    rfl
  | case2 a b s high low second first ih =>
    simp only [List.cons_append, unescapedBytes, first, second, ih]
  | case3 a b s bad ih =>
    refine further ?_ ih
    rw [Bool.eq_false_iff, Ne, startsEscape_iff]
    rintro ⟨x, y, rest, -, same, first, second⟩
    cases same
    obtain ⟨high, isHigh⟩ := Option.isSome_iff_exists.mp first
    obtain ⟨low, isLow⟩ := Option.isSome_iff_exists.mp second
    exact bad high low isHigh isLow
  | case4 d s other ih =>
    refine further ?_ ih
    rw [Bool.eq_false_iff, Ne, startsEscape_iff]
    rintro ⟨a, b, rest, percent, rfl, -⟩
    exact other a b rest percent rfl

/-- A mark divides what is read again. -/
theorem reread_append_cons (mark : endsAuthority c = true) (s t : Text) :
    reread (s ++ c :: t) = reread s ++ c :: reread t := by
  obtain ⟨ascii, -⟩ := mark_plain mark
  have number : (UInt8.ofNat c.toNat).toNat = c.toNat := toNat_byte (by omega)
  have byte : (UInt8.ofNat c.toNat).toNat < 0x80 := by
    rw [number]
    exact ascii
  rw [reread_eq, unescapedBytes_append_cons mark, decodeBytes,
    decodeBytesFrom_append_cons byte goesOn_none, number, Char.ofNat_toNat, reread_eq, reread_eq]
  rfl

/-- Nothing is all that is read again as nothing. -/
theorem reread_eq_nil_iff {t : Text} : reread t = [] ↔ t = [] :=
  percentDecode_eq_nil_iff.trans written_eq_nil_iff

/-- A part behind its mark is read again behind it. -/
theorem reread_append_behind (mark : endsAuthority c = true) (s t : Text) :
    reread (s ++ behind c t) = reread s ++ behind c (reread t) := by
  cases t with
  | nil =>
    have none : reread (s ++ []) = reread s ++ [] := by rw [List.append_nil, List.append_nil]
    exact none
  | cons d t =>
    have present : (reread (d :: t)).isEmpty = false :=
      List.isEmpty_eq_false_iff.mpr fun none => List.cons_ne_nil d t (reread_eq_nil_iff.mp none)
    rw [behind, behind, present]
    exact reread_append_cons mark s (d :: t)

/-- A part behind its mark is written behind it. -/
theorem written_behind (mark : endsAuthority c = true) (t : Text) :
    written (behind c t) = behind c (written t) := by
  obtain ⟨-, -, -, itself⟩ := mark_plain mark
  cases t with
  | nil => rfl
  | cons d t =>
    have present : (written (d :: t)).isEmpty = false :=
      List.isEmpty_eq_false_iff.mpr fun none => List.cons_ne_nil d t (written_eq_nil_iff.mp none)
    rw [behind, behind, present]
    change written (c :: d :: t) = c :: written (d :: t)
    rw [written_cons c, itself]
    rfl

/-- What is encoded is cut where it would be cut, at a mark that is not escaped. -/
theorem splitAt_percentEncode {safe : Text} (mark : endsAuthority c = true)
    (itself : standsForItself safe c = true) (t : Text) :
    splitAt c (percentEncode safe t) =
      (percentEncode safe (splitAt c t).1, percentEncode safe (splitAt c t).2) := by
  obtain ⟨-, noDigit, plain, -⟩ := mark_plain mark
  have absent {s : Text} : c ∉ s → c ∉ percentEncode safe s :=
    mt (mem_percentEncode_iff noDigit plain itself).mp
  by_cases present : c ∈ t
  · obtain ⟨before, after, rfl, first⟩ := List.eq_append_cons_of_mem present
    have whole : percentEncode safe (before ++ c :: after) =
        percentEncode safe before ++ c :: percentEncode safe after := by
      rw [percentEncode_append, percentEncode_cons, itself]
      rfl
    rw [whole, splitAt_append first, splitAt_append (absent first)]
  · rw [splitAt_of_not_mem present, splitAt_of_not_mem (absent present)]
    rfl

/-- A text that is put together again where it was cut is the same, or a mark is lost that opens an
empty part. -/
theorem append_behind_cases (mark : endsAuthority c = true) (t : Text) :
    (splitAt c t).1 ++ behind c (splitAt c t).2 = t ∨
      (reread ((splitAt c t).1 ++ behind c (splitAt c t).2)).length < (reread t).length := by
  by_cases present : c ∈ t
  · obtain ⟨before, after, rfl, first⟩ := List.eq_append_cons_of_mem present
    rw [splitAt_append first]
    cases after with
    | nil =>
      right
      rw [reread_append_behind mark, reread_append_cons mark]
      simp [behind, reread_eq_nil_iff.mpr]
    | cons d after => exact .inl rfl
  · rw [splitAt_of_not_mem present]
    exact .inl (List.append_nil t)

end Mark

/-- Path, query and fragment of a text put together again; a mark that opens an empty part is
lost. -/
def rejoin (t : Text) : Text :=
  (splitTail t).1 ++ (behind '?' (splitTail t).2.1 ++ behind '#' (splitTail t).2.2)

/-- A text that is put together again is the same, or it is shorter when it is read again. -/
theorem rejoin_cases (t : Text) :
    rejoin t = t ∨ (reread (rejoin t)).length < (reread t).length := by
  have outer := append_behind_cases (c := '#') rfl t
  have inner := append_behind_cases (c := '?') rfl (splitAt '#' t).1
  have whole : rejoin t = ((splitAt '?' (splitAt '#' t).1).1 ++
      behind '?' (splitAt '?' (splitAt '#' t).1).2) ++ behind '#' (splitAt '#' t).2 :=
    (List.append_assoc ..).symm
  rw [whole]
  rcases inner with same | shorter
  · rw [same]
    exact outer
  · right
    have bound : (reread ((splitAt '#' t).1 ++ behind '#' (splitAt '#' t).2)).length ≤
        (reread t).length := by
      rcases outer with same | less
      · rw [same]
      · exact Nat.le_of_lt less
    rw [reread_append_behind rfl, List.length_append] at bound ⊢
    omega

/-- The parts of what is encoded, each decoded and written, are what is written of the text put
together again and read again. -/
theorem recode_percentEncode {safe : Text} (percent : '%' ∈ safe) (ascii : isAscii safe = true)
    (query : standsForItself safe '?' = true) (fragment : standsForItself safe '#' = true)
    (t : Text) :
    recode (splitTail (percentEncode safe t)).1 ++
        (behind '?' (recode (splitTail (percentEncode safe t)).2.1) ++
          behind '#' (recode (splitTail (percentEncode safe t)).2.2)) =
      written (reread (rejoin t)) := by
  have cut : splitTail (percentEncode safe t) = (percentEncode safe (splitTail t).1,
      percentEncode safe (splitTail t).2.1, percentEncode safe (splitTail t).2.2) := by
    unfold splitTail
    rw [splitAt_percentEncode rfl fragment]
    dsimp only
    rw [splitAt_percentEncode rfl query]
  have decoded (s : Text) : recode (percentEncode safe s) = written (reread s) := by
    rw [recode, percentDecode_percentEncode percent ascii, reread_eq]
    rfl
  have parts : reread (rejoin t) = reread (splitTail t).1 ++
      (behind '?' (reread (splitTail t).2.1) ++ behind '#' (reread (splitTail t).2.2)) := by
    rw [rejoin, ← List.append_assoc, reread_append_behind rfl, reread_append_behind rfl,
      List.append_assoc]
  rw [cut, parts, written_append, written_append, written_behind rfl, written_behind rfl,
    decoded, decoded, decoded]

/-- **What is written after an authority stays as it is when it is read and written again** exactly
if it is spelled as it would be written and no mark in it opens an empty part. -/
theorem written_rejoin_iff (t : Text) :
    written (reread (rejoin t)) = written t ↔ Spelled t ∧ rejoin t = t := by
  constructor
  · intro same
    rcases rejoin_cases t with whole | shorter
    · rw [whole] at same
      exact ⟨(written_reread_iff t).mp same, whole⟩
    · have bound := length_percentDecode_written (reread (rejoin t))
      rw [same] at bound
      exact absurd bound (Nat.not_le_of_gt shorter)
  · rintro ⟨spelled, whole⟩
    rw [whole, spelled.written_reread]

end MarkdownSite.Url
