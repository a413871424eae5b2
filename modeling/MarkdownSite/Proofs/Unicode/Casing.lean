import MarkdownSite.Proofs.Text.Basic
import MarkdownSite.Unicode.Casing

/-!
# Where letter case lands

What a case table makes of a character is read off its rows. An ASCII character in lower case is a
letter that stood in the text as a capital or came from beyond ASCII, or it stood there as it is.
-/

namespace MarkdownSite.Unicode

/-! ## Tables -/

/-- Whether what a row maps lands in one of the ranges. Rows are consulted beyond ASCII only. -/
def CaseRange.landsIn (ranges : List (Nat × Nat)) (row : CaseRange) : Bool :=
  row.last < 128 || ranges.any fun (first, last) =>
    (first : Int) ≤ (max row.first 128 : Nat) + row.delta && (row.last : Int) + row.delta ≤ last

section Ranges

variable {ranges : List (Nat × Nat)}
  (scalars : ∀ range ∈ ranges, range.2 < 0xD800 ∨ 0xDFFF < range.1 ∧ range.2 < 0x110000)

include scalars

/-- A code point in a range of characters is that of a character in it. -/
theorem inRanges_ofNat {n first last : Nat} (range : (first, last) ∈ ranges) (least : first ≤ n)
    (most : n ≤ last) : inRanges ranges (Char.ofNat n) = true := by
  have valid : n.isValidChar := by
    have := scalars (first, last) range
    unfold Nat.isValidChar
    omega
  have code : (Char.ofNat n).toNat = n := by
    rw [Char.ofNat, dif_pos valid]
    rfl
  rw [inRanges, List.any_eq_true]
  exact ⟨(first, last), range, by simp [code, least, most]⟩

/-- A case mapping whose tables land in some ranges leaves a character beyond ASCII as it is or
takes it there. -/
theorem mapCase_cases {expansions : List (Nat × List Nat)} {table : List CaseRange}
    (rows : ∀ row ∈ table, row.landsIn ranges = true)
    (listed : ∀ entry ∈ expansions, ∀ code ∈ entry.2, inRanges ranges (Char.ofNat code) = true)
    {c : Char} (wide : ¬c.toNat < 128) :
    ∀ d ∈ mapCase expansions table c, d = c ∨ inRanges ranges d = true := by
  intro d member
  unfold mapCase at member
  cases expanded : expansions.lookup c.toNat with
  | some codes =>
    rw [expanded] at member
    obtain ⟨code, inside, rfl⟩ := List.mem_map.mp member
    obtain ⟨before, after, split, -⟩ := List.lookup_eq_some_iff.mp expanded
    exact .inr (listed (c.toNat, codes) (by simp [split]) code inside)
  | none =>
    rw [expanded] at member
    cases found : table.find? (·.covers c.toNat) with
    | none =>
      rw [found] at member
      exact .inl (List.mem_singleton.mp member)
    | some row =>
      rw [found] at member
      rw [List.mem_singleton.mp member]
      have covered := List.find?_some found
      have lands := rows row (List.mem_of_find?_eq_some found)
      simp only [CaseRange.covers, Bool.and_eq_true, decide_eq_true_eq] at covered
      simp only [CaseRange.landsIn, Bool.or_eq_true, List.any_eq_true, Bool.and_eq_true,
        decide_eq_true_eq] at lands
      rcases lands with short | ⟨⟨first, last⟩, range, least, most⟩
      · omega
      · refine .inr (inRanges_ofNat scalars range ?_ ?_)
        · simp only at least
          omega
        · simp only at most
          omega

end Ranges

/-! ## Lower case -/

/-- A character of a text in lower case comes from one of its characters, or is a small sigma. -/
theorem mem_lowerFrom {d : Char} {before t : Text} (member : d ∈ lowerFrom before t) :
    (∃ c ∈ t, d ∈ lowerChar c) ∨ d = 'σ' ∨ d = 'ς' := by
  induction t generalizing before with
  | nil => cases member
  | cons c t ih =>
    simp only [lowerFrom, List.mem_append] at member
    rcases member with here | later
    · split at here
      · split at here
        · exact .inr (.inr (List.mem_singleton.mp here))
        · exact .inr (.inl (List.mem_singleton.mp here))
      · exact .inl ⟨c, List.mem_cons_self, here⟩
    · rcases ih later with ⟨source, inside, mapped⟩ | sigma
      · exact .inl ⟨source, List.mem_cons_of_mem _ inside, mapped⟩
      · exact .inr sigma

/-- Where the lower case of characters beyond ASCII lies: beyond ASCII, but for two letters. -/
def wideLowerRanges : List (Nat × Nat) :=
  [(0x69, 0x69), (0x6B, 0x6B), (0x80, 0xD7FF), (0xE000, 0x10FFFF)]

/-- The rows and expansions of lower case lead beyond ASCII, but for two letters. -/
theorem lower_lands_wide :
    (∀ row ∈ lowerRanges, row.landsIn wideLowerRanges = true) ∧
      ∀ entry ∈ lowerExpansions, ∀ code ∈ entry.2,
        inRanges wideLowerRanges (Char.ofNat code) = true := by
  decide +kernel

/-- An ASCII character in lower case is the lower case of an ASCII character, or one of two letters
that stand for characters beyond ASCII. -/
theorem mem_lower {t : Text} {d : Char} (member : d ∈ lower t) (ascii : d.toNat < 128) :
    (∃ c ∈ t, c.toNat < 128 ∧ d = c.toLower) ∨ d = 'i' ∨ d = 'k' := by
  rcases mem_lowerFrom member with ⟨c, source, mapped⟩ | rfl | rfl
  · unfold lowerChar at mapped
    split at mapped
    · rename_i narrow
      exact .inl ⟨c, source, narrow, List.mem_singleton.mp mapped⟩
    · rename_i wide
      have scalars : ∀ range ∈ wideLowerRanges,
          range.2 < 0xD800 ∨ 0xDFFF < range.1 ∧ range.2 < 0x110000 := by decide
      rcases mapCase_cases scalars lower_lands_wide.1 lower_lands_wide.2 wide d mapped with
        rfl | inside
      · exact absurd ascii wide
      · simp only [inRanges, wideLowerRanges, List.any_cons, List.any_nil, Bool.or_false,
          Bool.or_eq_true, Bool.and_eq_true, decide_eq_true_eq] at inside
        have letter : d.toNat = 0x69 ∨ d.toNat = 0x6B := by omega
        rw [← Char.ofNat_toNat d]
        exact .inr (letter.imp (congrArg Char.ofNat) (congrArg Char.ofNat))
  · exact absurd ascii (by decide)
  · exact absurd ascii (by decide)

/-- An ASCII character in lower case that is no letter stood in the text. -/
theorem mem_of_mem_lower {t : Text} {d : Char} (member : d ∈ lower t) (ascii : d.toNat < 128)
    (other : d.isAlpha = false) : d ∈ t := by
  rcases mem_lower member ascii with ⟨c, source, narrow, rfl⟩ | rfl | rfl
  · rw [Text.isAlpha_toLower] at other
    rwa [Text.toLower_of_not_isAlpha other]
  · cases other
  · cases other

/-- An ASCII character that is no letter stays in a text when it is written in lower case. -/
theorem mem_lowerFrom_of_mem {before t : Text} {c : Char} (member : c ∈ t) (ascii : c.toNat < 128)
    (other : c.isAlpha = false) : c ∈ lowerFrom before t := by
  induction t generalizing before with
  | nil => cases member
  | cons d t ih =>
    rw [lowerFrom]
    rcases List.mem_cons.mp member with rfl | later
    · have noSigma : c ≠ 'Σ' := by
        rintro rfl
        exact absurd ascii (by decide)
      rw [if_neg noSigma, lowerChar, if_pos ascii, Text.toLower_of_not_isAlpha other]
      exact List.mem_append_left _ List.mem_cons_self
    · exact List.mem_append_right _ (ih later)

/-- The ASCII characters of a text in lower case that are no letters are those of the text. -/
theorem mem_lower_iff {t : Text} {c : Char} (ascii : c.toNat < 128) (other : c.isAlpha = false) :
    c ∈ lower t ↔ c ∈ t :=
  ⟨fun member => mem_of_mem_lower member ascii other,
    fun member => mem_lowerFrom_of_mem member ascii other⟩

/-- An ASCII character in lower case is no capital. -/
theorem toLower_of_mem_lower {t : Text} {d : Char} (member : d ∈ lower t)
    (ascii : d.toNat < 128) : d.toLower = d := by
  rcases mem_lower member ascii with ⟨c, source, narrow, rfl⟩ | rfl | rfl
  · exact Text.toLower_toLower c
  · rfl
  · rfl

/-- A case mapping whose expansions are not empty makes something of each character. -/
theorem mapCase_ne_nil {expansions : List (Nat × List Nat)} (table : List CaseRange)
    (expanded : ∀ entry ∈ expansions, entry.2 ≠ []) (c : Char) :
    mapCase expansions table c ≠ [] := by
  unfold mapCase
  split
  · rename_i codes found
    obtain ⟨before, after, split, -⟩ := List.lookup_eq_some_iff.mp found
    simpa using expanded (c.toNat, codes) (by simp [split])
  · split <;> simp

/-- No character vanishes in lower case. -/
theorem lowerChar_ne_nil (c : Char) : lowerChar c ≠ [] := by
  unfold lowerChar
  split
  · simp
  · exact mapCase_ne_nil _ (by decide) c

/-- No character vanishes in upper case. -/
theorem upperChar_ne_nil (c : Char) : upperChar c ≠ [] := by
  unfold upperChar
  split
  · simp
  · exact mapCase_ne_nil _ (by decide) c

/-- A text that is not empty has a lower case that is not empty. -/
theorem lower_ne_nil {t : Text} (present : t ≠ []) : lower t ≠ [] := by
  obtain ⟨c, rest, rfl⟩ := List.exists_cons_of_ne_nil present
  unfold lower lowerFrom
  dsimp only
  split
  · split <;> simp
  · simp [lowerChar_ne_nil]

/-- An ASCII text is written in lower case letter by letter. -/
theorem lower_of_ascii {t : Text} (ascii : Text.isAscii t = true) : lower t = Text.asciiLower t := by
  have each (before : Text) : lowerFrom before t = Text.asciiLower t := by
    induction t generalizing before with
    | nil => rfl
    | cons c t ih =>
      unfold Text.isAscii at ascii ih
      rw [List.all_cons, Bool.and_eq_true, decide_eq_true_eq] at ascii
      have noSigma : c ≠ 'Σ' := by
        rintro rfl
        exact absurd ascii.1 (by decide)
      rw [lowerFrom, if_neg noSigma, lowerChar, if_pos ascii.1, ih ascii.2]
      rfl
  exact each []

/-- An ASCII text in lower case is its own lower case. -/
theorem lower_lower {t : Text} (ascii : Text.isAscii (lower t) = true) :
    lower (lower t) = lower t := by
  rw [lower_of_ascii ascii]
  refine (List.map_congr_left fun c member => ?_).trans (List.map_id _)
  exact toLower_of_mem_lower member (by simpa using List.all_eq_true.mp ascii c member)

end MarkdownSite.Unicode
