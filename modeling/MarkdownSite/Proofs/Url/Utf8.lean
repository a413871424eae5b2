import MarkdownSite.Url.Percent

/-!
# Reading UTF-8

Bytes are read one after another. Each gives at most one character more than is owed, an ASCII byte
always gives its character, and the bytes of a character give it back wherever they stand.
-/

namespace MarkdownSite.Url

open Text

/-! ## One byte -/

/-- What a byte in its range gives that continues a character begun. -/
def PendingChar.proceed (p : PendingChar) (b : UInt8) : Text × Option PendingChar :=
  match p.more with
  | 0 => ([Char.ofNat (p.bits * 64 + (b.toNat - 0x80))], none)
  | more + 1 => ([], some ⟨p.bits * 64 + (b.toNat - 0x80), more, 0x80, 0xBF⟩)

/-- What a character begun gives if nothing continues it. -/
def broken : Option PendingChar → Text
  | none => []
  | some _ => ['\uFFFD']

/-- What a byte gives after a character begun, or after none: text, and a character begun. -/
def feed (begun : Option PendingChar) (b : UInt8) : Text × Option PendingChar :=
  if begun.any fun p => p.least ≤ b.toNat && b.toNat ≤ p.greatest then
    (begun.map fun p => p.proceed b).getD (startChar b)
  else (broken begun ++ (startChar b).1, (startChar b).2)

/-- Whether a character begun goes on with continuation bytes only. -/
def GoesOn (begun : Option PendingChar) : Prop :=
  ∀ p ∈ begun, 0x80 ≤ p.least ∧ p.greatest ≤ 0xBF

/-- Whether what a byte gives is a character, or one begun that goes on with continuation bytes. -/
def GivesOne (given : Text × Option PendingChar) : Prop :=
  (∃ c, given = ([c], none)) ∨ ∃ p, given = ([], some p) ∧ GoesOn (some p)

/-- Where nothing is begun nothing goes on. -/
theorem goesOn_none : GoesOn none := nofun

/-- Without bytes what is begun is broken off. -/
theorem decodeBytesFrom_nil (begun : Option PendingChar) :
    decodeBytesFrom begun [] = broken begun := by
  cases begun <;> rfl

/-- Bytes are read one after another. -/
theorem decodeBytesFrom_cons (begun : Option PendingChar) (b : UInt8) (rest : List UInt8) :
    decodeBytesFrom begun (b :: rest) =
      (feed begun b).1 ++ decodeBytesFrom (feed begun b).2 rest := by
  cases begun with
  | none => rfl
  | some p =>
    rw [decodeBytesFrom]
    unfold feed
    by_cases inside : p.least ≤ b.toNat ∧ b.toNat ≤ p.greatest
    · have continues : (some p).any (fun p => p.least ≤ b.toNat && b.toNat ≤ p.greatest) = true := by
        simpa using inside
      rw [if_pos inside, if_pos continues]
      change _ = (p.proceed b).1 ++ decodeBytesFrom (p.proceed b).2 rest
      unfold PendingChar.proceed
      cases p.more <;> rfl
    · have breaks : ¬(some p).any (fun p => p.least ≤ b.toNat && b.toNat ≤ p.greatest) = true := by
        simpa using inside
      rw [if_neg inside, if_neg breaks]
      rfl

/-- A byte at the start gives a character or begins one. -/
theorem givesOne_startChar (b : UInt8) : GivesOne (startChar b) := by
  unfold startChar GivesOne GoesOn
  dsimp only
  repeat' split
  all_goals simp

/-- A byte that continues a character completes it or leaves it begun. -/
theorem givesOne_proceed (p : PendingChar) (b : UInt8) : GivesOne (p.proceed b) := by
  unfold PendingChar.proceed
  split
  · exact .inl ⟨_, rfl⟩
  · exact .inr ⟨_, rfl, by simp [GoesOn]⟩

/-- A byte gives one character more than is broken off, or it begins one. -/
theorem feed_cases (begun : Option PendingChar) (b : UInt8) :
    ∃ given, GivesOne given ∧
      (feed begun b = given ∨ feed begun b = (broken begun ++ given.1, given.2)) := by
  unfold feed
  split
  · cases begun with
    | none => exact ⟨_, givesOne_startChar b, .inl rfl⟩
    | some p => exact ⟨_, givesOne_proceed p b, .inl rfl⟩
  · exact ⟨_, givesOne_startChar b, .inr rfl⟩

/-- What a byte leaves begun goes on with continuation bytes. -/
theorem goesOn_feed (begun : Option PendingChar) (b : UInt8) : GoesOn (feed begun b).2 := by
  obtain ⟨given, one, same⟩ := feed_cases begun b
  have second : (feed begun b).2 = given.2 := by rcases same with same | same <;> rw [same]
  rw [second]
  rcases one with ⟨c, rfl⟩ | ⟨p, rfl, further⟩
  · exact goesOn_none
  · exact further

/-- A byte gives at most one character more than is owed. -/
theorem length_feed_le (begun : Option PendingChar) (b : UInt8) :
    (feed begun b).1.length + (broken (feed begun b).2).length ≤ (broken begun).length + 1 := by
  obtain ⟨given, one, same⟩ := feed_cases begun b
  have single : given.1.length + (broken given.2).length = 1 := by
    rcases one with ⟨c, rfl⟩ | ⟨p, rfl, -⟩ <;> rfl
  rcases same with same | same <;> rw [same]
  · omega
  · simp only [List.length_append]
    omega

/-- A byte that continues no character breaks off what is begun and starts anew. -/
theorem feed_of_start {begun : Option PendingChar} (further : GoesOn begun) {b : UInt8}
    (first : b.toNat < 0x80 ∨ 0xBF < b.toNat) :
    feed begun b = (broken begun ++ (startChar b).1, (startChar b).2) := by
  refine if_neg ?_
  cases begun with
  | none => simp
  | some p =>
    obtain ⟨least, greatest⟩ := further p rfl
    simp only [Option.any_some, Bool.and_eq_true, decide_eq_true_eq]
    omega

/-- An ASCII byte gives its character. -/
theorem startChar_of_ascii {b : UInt8} (ascii : b.toNat < 0x80) :
    startChar b = ([Char.ofNat b.toNat], none) := by
  unfold startChar
  exact if_pos ascii

/-- **Reading bytes loses no ASCII character.** -/
theorem count_le_count_decodeBytesFrom {b : UInt8} (ascii : b.toNat < 0x80)
    {begun : Option PendingChar} (further : GoesOn begun) (bytes : List UInt8) :
    bytes.count b ≤ (decodeBytesFrom begun bytes).count (Char.ofNat b.toNat) := by
  induction bytes generalizing begun with
  | nil => exact Nat.zero_le _
  | cons a rest ih =>
    have later := ih (goesOn_feed begun a)
    rw [decodeBytesFrom_cons, List.count_append, List.count_cons]
    by_cases same : a = b
    · have given : (feed begun a).1 = broken begun ++ [Char.ofNat b.toNat] := by
        rw [same, feed_of_start further (.inl ascii), startChar_of_ascii ascii]
      rw [given, List.count_append, List.count_singleton_self, if_pos (beq_iff_eq.mpr same)]
      omega
    · rw [if_neg (by simpa using same)]
      omega

/-! ## The bytes of a character -/

/-- The number of a byte that is made of a small number. -/
theorem toNat_byte {n : Nat} (small : n < 256) : (UInt8.ofNat n).toNat = n :=
  UInt8.toNat_ofNat_of_lt' small

section Continuation

variable {p : PendingChar} {n : Nat}

/-- The last byte of a character gives it. -/
theorem decodeBytesFrom_last (last : p.more = 0) (small : n < 256) (least : p.least ≤ n)
    (greatest : n ≤ p.greatest) (rest : List UInt8) :
    decodeBytesFrom (some p) (UInt8.ofNat n :: rest) =
      Char.ofNat (p.bits * 64 + (n - 0x80)) :: decodeBytesFrom none rest := by
  rw [decodeBytesFrom, toNat_byte small, if_pos ⟨least, greatest⟩]
  simp only [last]

/-- A byte before the last of a character is read with the others. -/
theorem decodeBytesFrom_next {more : Nat} (further : p.more = more + 1) (small : n < 256)
    (least : p.least ≤ n) (greatest : n ≤ p.greatest) (rest : List UInt8) :
    decodeBytesFrom (some p) (UInt8.ofNat n :: rest) =
      decodeBytesFrom (some ⟨p.bits * 64 + (n - 0x80), more, 0x80, 0xBF⟩) rest := by
  rw [decodeBytesFrom, toNat_byte small, if_pos ⟨least, greatest⟩]
  simp only [further]

end Continuation

/-- What the first of two bytes begins. -/
theorem startChar_two {n : Nat} (least : 0xC2 ≤ n) (greatest : n ≤ 0xDF) :
    startChar (UInt8.ofNat n) = ([], some ⟨n - 0xC0, 0, 0x80, 0xBF⟩) := by
  have value : (UInt8.ofNat n).toNat = n := toNat_byte (by omega)
  unfold startChar
  simp only [value]
  rw [if_neg (by omega), if_pos ⟨least, greatest⟩]

/-- What the first of three bytes begins: neither a shorter form nor a surrogate may follow. -/
theorem startChar_three {n : Nat} (least : 0xE0 ≤ n) (greatest : n ≤ 0xEF) :
    startChar (UInt8.ofNat n) = ([], some ⟨n - 0xE0, 1, if n = 0xE0 then 0xA0 else 0x80,
      if n = 0xED then 0x9F else 0xBF⟩) := by
  have value : (UInt8.ofNat n).toNat = n := toNat_byte (by omega)
  unfold startChar
  simp only [value]
  rw [if_neg (by omega), if_neg (by omega)]
  by_cases first : n = 0xE0
  · subst first
    rfl
  · by_cases surrogates : n = 0xED
    · subst surrogates
      rfl
    · simp only [first, surrogates, ↓reduceIte]
      exact if_pos ⟨by omega, greatest⟩

/-- What the first of four bytes begins: neither a shorter form nor too great a number may
follow. -/
theorem startChar_four {n : Nat} (least : 0xF0 ≤ n) (greatest : n ≤ 0xF4) :
    startChar (UInt8.ofNat n) = ([], some ⟨n - 0xF0, 2, if n = 0xF0 then 0x90 else 0x80,
      if n = 0xF4 then 0x8F else 0xBF⟩) := by
  obtain rfl | rfl | rfl | rfl | rfl :
      n = 0xF0 ∨ n = 0xF1 ∨ n = 0xF2 ∨ n = 0xF3 ∨ n = 0xF4 := by omega
  all_goals rfl

/-- The first byte of a character continues none. -/
theorem utf8EncodeChar_head (c : Char) :
    ∃ b rest, String.utf8EncodeChar c = b :: rest ∧ (b.toNat < 0x80 ∨ 0xBF < b.toNat) := by
  unfold String.utf8EncodeChar
  dsimp only
  split
  · exact ⟨_, _, rfl, .inl (by rw [toNat_byte] <;> omega)⟩
  · split
    · exact ⟨_, _, rfl, .inr (by rw [toNat_byte] <;> omega)⟩
    · split
      · exact ⟨_, _, rfl, .inr (by rw [toNat_byte] <;> omega)⟩
      · exact ⟨_, _, rfl, .inr (by rw [toNat_byte] <;> omega)⟩

/-- The bytes of a character give it back where nothing is begun. -/
theorem decodeBytesFrom_none_utf8EncodeChar (c : Char) (rest : List UInt8) :
    decodeBytesFrom none (String.utf8EncodeChar c ++ rest) = c :: decodeBytesFrom none rest := by
  have valid : c.val.toNat < 0xD800 ∨ 0xDFFF < c.val.toNat ∧ c.val.toNat < 0x110000 := c.valid
  have own {n : Nat} (same : n = c.val.toNat) : Char.ofNat n = c := by
    rw [same]
    exact c.ofNat_toNat
  unfold String.utf8EncodeChar
  dsimp only
  generalize c.val.toNat = n at valid own
  split
  · rename_i one
    have ascii : (UInt8.ofNat n).toNat = n := toNat_byte (by omega)
    rw [List.singleton_append, decodeBytesFrom, startChar_of_ascii (by omega), ascii, own rfl]
    rfl
  · split
    · rw [List.cons_append, List.singleton_append, decodeBytesFrom,
        startChar_two (by omega) (by omega)]
      change decodeBytesFrom _ _ = _
      rw [decodeBytesFrom_last rfl (by omega) (by dsimp only; omega) (by dsimp only; omega)]
      dsimp only
      rw [own (by omega)]
    · split
      · rw [List.cons_append, List.cons_append, List.singleton_append, decodeBytesFrom,
          startChar_three (by omega) (by omega)]
        change decodeBytesFrom _ _ = _
        rw [decodeBytesFrom_next rfl (by omega) (by dsimp only; split <;> omega)
            (by dsimp only; split <;> omega),
          decodeBytesFrom_last rfl (by omega) (by dsimp only; omega) (by dsimp only; omega)]
        dsimp only
        rw [own (by omega)]
      · rw [List.cons_append, List.cons_append, List.cons_append, List.singleton_append,
          decodeBytesFrom, startChar_four (by omega) (by omega)]
        change decodeBytesFrom _ _ = _
        rw [decodeBytesFrom_next rfl (by omega) (by dsimp only; split <;> omega)
            (by dsimp only; split <;> omega),
          decodeBytesFrom_next rfl (by omega) (by dsimp only; omega) (by dsimp only; omega),
          decodeBytesFrom_last rfl (by omega) (by dsimp only; omega) (by dsimp only; omega)]
        dsimp only
        rw [own (by omega)]

/-- **The bytes of a character give it back**, after what was begun is broken off. -/
theorem decodeBytesFrom_utf8EncodeChar {begun : Option PendingChar} (further : GoesOn begun)
    (c : Char) (rest : List UInt8) :
    decodeBytesFrom begun (String.utf8EncodeChar c ++ rest) =
      broken begun ++ c :: decodeBytesFrom none rest := by
  obtain ⟨b, others, bytes, first⟩ := utf8EncodeChar_head c
  have alone := decodeBytesFrom_none_utf8EncodeChar c rest
  rw [bytes, List.cons_append, decodeBytesFrom_cons, feed_of_start goesOn_none first] at alone
  rw [bytes, List.cons_append, decodeBytesFrom_cons, feed_of_start further first, ← alone,
    List.append_assoc]
  rfl

end MarkdownSite.Url
