import MarkdownSite.Proofs.Text.Pieces
import MarkdownSite.Text.Blank
import MarkdownSite.Unicode.Normalization

/-!
# What canonical decompositions begin with

The table of canonical decompositions is checked line by line: its lines are whole entries, so that
what holds of the entries on each line holds of all. Decomposition leads from no other character to
a control character, and to an ASCII character from some blocks of letters and symbols only, in
which there are no marks.
-/

namespace MarkdownSite.Unicode

open Text

/-! ## The table -/

/-- The entries that a text lists. -/
def entriesOf (t : Text) : List CanonicalEntry := (splitOn ';' t).filterMap parseCanonicalEntry

/-- The entries of a text that ends with an entry are followed by those of the next. -/
theorem entriesOf_append {line : Text} (closed : line.getLast? = some ';') (rest : Text) :
    entriesOf (line ++ rest) = entriesOf line ++ entriesOf rest := by
  obtain ⟨start, rfl⟩ := List.getLast?_eq_some_iff.mp closed
  have nothing : (splitOn ';' []).filterMap parseCanonicalEntry = [] := rfl
  unfold entriesOf
  rw [List.append_assoc, List.singleton_append, splitOn_append_cons, splitOn_append_cons,
    List.filterMap_append, List.filterMap_append, nothing, List.append_nil]

/-- Whether a line is whole entries that satisfy `p`. -/
def linePasses (p : CanonicalEntry → Bool) (line : Text) : Bool :=
  line.getLast? == some ';' && (entriesOf line).all p

/-- What holds of the entries on each line holds of all entries. -/
theorem entries_pass {p : CanonicalEntry → Bool} {lines : List String}
    (each : ∀ line ∈ lines, ∃ chars, line = String.ofList chars ∧ linePasses p chars = true) :
    ∀ entry ∈ entriesOf (String.join lines), p entry = true := by
  rw [String.toList_join]
  induction lines with
  | nil => exact fun entry member => nomatch member
  | cons line lines ih =>
    obtain ⟨⟨chars, rfl, passes⟩, rest⟩ := List.forall_mem_cons.mp each
    rw [linePasses, Bool.and_eq_true, beq_iff_eq, List.all_eq_true] at passes
    rw [List.flatMap_cons, String.toList_ofList, entriesOf_append passes.1]
    intro entry member
    rcases List.mem_append.mp member with here | later
    · exact passes.2 entry here
    · exact ih rest entry later

/-- Where the characters lie that decompose into an ASCII character: among the letters of Latin and
Greek, and among the symbols. -/
def asciiBasedRanges : List (Nat × Nat) :=
  [(0xC0, 0x24F), (0x37E, 0x37E), (0x1E00, 0x1FFF), (0x2100, 0x22FF)]

/-- Whether a character is neither in ASCII nor among those that decompose into ASCII. -/
def isFarFromAscii (c : Char) : Bool := 128 ≤ c.toNat && !inRanges asciiBasedRanges c

/-- Whether an entry leads to a character that is no control character, and that is in ASCII only if
the character that decomposes is where such characters are. -/
def CanonicalEntry.isRegular (entry : CanonicalEntry) : Bool :=
  match entry.parts with
  | first :: _ => 32 ≤ first.toNat && (!isFarFromAscii entry.whole || isFarFromAscii first)
  | [] => false

/-- Whether an entry says nothing about an acute accent: it is not what the entry decomposes, nor
put on an `x`. -/
def CanonicalEntry.leavesAcute (entry : CanonicalEntry) : Bool :=
  entry.whole != '\u0301' && entry.parts != ['x', '\u0301']

/-- Whether an entry leads from a blank to one blank and nothing else, and puts no blank together
with another character. -/
def CanonicalEntry.keepsBlanks (entry : CanonicalEntry) : Bool :=
  match entry.parts with
  | [part] => !isBlank entry.whole || isBlank part
  | parts => !isBlank entry.whole && parts.all (!isBlank ·)

/-- All entries of the table are regular, none is about an acute accent on an `x`, and blanks stay
by themselves. -/
theorem canonicalEntries_pass : ∀ entry ∈ canonicalEntries,
    entry.isRegular = true ∧ entry.leavesAcute = true ∧ entry.keepsBlanks = true := by
  have checked : ∀ entry ∈ canonicalEntries,
      (entry.isRegular && (entry.leavesAcute && entry.keepsBlanks)) = true := by
    refine entries_pass ?_
    -- one step for each line of the table
    repeat refine List.forall_mem_cons.mpr ⟨⟨_, rfl, by decide +kernel⟩, ?_⟩
    exact List.forall_mem_nil _
  intro entry member
  obtain ⟨regular, others⟩ := Bool.and_eq_true_iff.mp (checked entry member)
  exact ⟨regular, Bool.and_eq_true_iff.mp others⟩

/-! ## The first character -/

/-- A character that is not in the table does not decompose. -/
theorem expandBy_of_unlisted {entryFor? : Char → Option CanonicalEntry} {c : Char} (fuel : Nat)
    (unlisted : entryFor? c = none) : expandBy entryFor? fuel c = [c] := by
  cases fuel <;> simp [expandBy, unlisted]

section First

variable {P : Char → Prop} {entryFor? : Char → Option CanonicalEntry}
  (table : ∀ c entry, entryFor? c = some entry → P c →
    ∃ first rest, entry.parts = first :: rest ∧ P first)

include table

/-- What the table hands on from a character to the first of its parts, decomposition does. -/
theorem expandBy_eq_cons (fuel : Nat) {c : Char} (start : P c) :
    ∃ d rest, expandBy entryFor? fuel c = d :: rest ∧ P d := by
  induction fuel generalizing c with
  | zero => exact ⟨c, [], rfl, start⟩
  | succ fuel ih =>
    cases found : entryFor? c with
    | none => exact ⟨c, [], expandBy_of_unlisted _ found, start⟩
    | some entry =>
      obtain ⟨first, rest, parts, handed⟩ := table c entry found start
      obtain ⟨d, more, expanded, kept⟩ := ih handed
      exact ⟨d, more ++ rest, by simp [expandBy, found, parts, expanded], kept⟩

end First

/-- A syllable decomposes into a leading jamo and what follows. -/
theorem expandHangul?_eq_cons {c : Char} {parts : Text} (syllable : expandHangul? c = some parts) :
    ∃ n < 19, ∃ rest, parts = Char.ofNat (0x1100 + n) :: rest := by
  simp only [expandHangul?] at syllable
  split at syllable
  · have bound : (c.toNat - 0xAC00) / 588 < 19 := by omega
    split at syllable <;> cases syllable <;> exact ⟨_, bound, _, rfl⟩
  · cases syllable

/-- The entry of a character is one of the table. -/
theorem mem_of_canonicalEntryFor? {c : Char} {entry : CanonicalEntry}
    (found : canonicalEntryFor? c = some entry) : entry ∈ canonicalEntries ∧ entry.whole = c := by
  unfold canonicalEntryFor? at found
  exact ⟨List.mem_of_find?_eq_some found, by simpa using List.find?_some found⟩

/-- What the entries of the table hand on to their first parts, and leading jamo have, full
decomposition keeps. -/
theorem canonicalExpansion_eq_cons {P : Char → Prop}
    (table : ∀ entry ∈ canonicalEntries, P entry.whole →
      ∃ first rest, entry.parts = first :: rest ∧ P first)
    (jamo : ∀ n < 19, P (Char.ofNat (0x1100 + n))) {c : Char} (start : P c) :
    ∃ d rest, canonicalExpansion c = d :: rest ∧ P d := by
  have listed : ∀ c entry, canonicalEntryFor? c = some entry → P c →
      ∃ first rest, entry.parts = first :: rest ∧ P first := by
    intro c entry found holds
    obtain ⟨member, rfl⟩ := mem_of_canonicalEntryFor? found
    exact table entry member holds
  rw [canonicalExpansion]
  split
  · exact ⟨c, [], rfl, start⟩
  · cases syllable : expandHangul? c with
    | none =>
      rw [Option.getD_none]
      exact expandBy_eq_cons listed 4 start
    | some parts =>
      obtain ⟨n, bound, rest, rfl⟩ := expandHangul?_eq_cons syllable
      exact ⟨_, rest, rfl, jamo n bound⟩

/-- A regular table hands on that a character is no control character, and that it is far from
ASCII. -/
theorem canonicalEntries_hand_on : ∀ entry ∈ canonicalEntries,
    ∃ first rest, entry.parts = first :: rest ∧ 32 ≤ first.toNat ∧
      (isFarFromAscii entry.whole = true → isFarFromAscii first = true) := by
  intro entry member
  have regular := (canonicalEntries_pass entry member).1
  unfold CanonicalEntry.isRegular at regular
  split at regular
  · rename_i first rest parts
    simp only [Bool.and_eq_true, decide_eq_true_eq, Bool.or_eq_true, Bool.not_eq_true'] at regular
    exact ⟨first, rest, parts, regular.1, fun far => regular.2.resolve_left (by simp [far])⟩
  · cases regular

/-- No character but a control character decomposes into one that begins with one. -/
theorem canonicalExpansion_visible {c : Char} (visible : 32 ≤ c.toNat) :
    ∃ d rest, canonicalExpansion c = d :: rest ∧ 32 ≤ d.toNat := by
  refine canonicalExpansion_eq_cons ?_ (by decide) visible
  intro entry member
  obtain ⟨first, rest, parts, kept, -⟩ := canonicalEntries_hand_on entry member
  exact fun _ => ⟨first, rest, parts, kept⟩

/-- No character that is far from ASCII decomposes into ASCII. -/
theorem canonicalExpansion_far {c : Char} (far : isFarFromAscii c = true) :
    ∃ d rest, canonicalExpansion c = d :: rest ∧ isFarFromAscii d = true := by
  refine canonicalExpansion_eq_cons ?_ (by decide) far
  intro entry member
  obtain ⟨first, rest, parts, -, kept⟩ := canonicalEntries_hand_on entry member
  exact fun far => ⟨first, rest, parts, kept far⟩

/-- Nonspacing marks are far from ASCII. -/
theorem isFarFromAscii_of_nonspacing {c : Char} (mark : isNonspacing c = true) :
    isFarFromAscii c = true := by
  have apart : ∀ range ∈ nonspacingRanges, ∀ other ∈ asciiBasedRanges,
      range.2 < other.1 ∨ other.2 < range.1 := by decide +kernel
  simp only [isNonspacing, inRanges, Bool.and_eq_true, decide_eq_true_eq, List.any_eq_true] at mark
  obtain ⟨wide, range, listed, least, most⟩ := mark
  simp only [isFarFromAscii, inRanges, Bool.and_eq_true, decide_eq_true_eq, Bool.not_eq_true',
    List.any_eq_false]
  refine ⟨by omega, fun other member => ?_⟩
  have disjoint := apart range listed other member
  grind

/-! ## An accent that no letter takes -/

/-- Canonical decomposition is defined everywhere. -/
theorem canonical_expand? (c : Char) : canonical.expand? c = some (canonicalExpansion c) := rfl

/-- Canonical composition is that of two characters. -/
theorem canonical_compose? (a b : Char) : canonical.compose? a b = canonicalComposition? a b := rfl

/-- A starter and a mark that neither decompose nor compose are in normal form. -/
theorem normalize_pair {table : Decompositions} {a b : Char} (starter : combiningClass a = 0)
    (mark : combiningClass b ≠ 0) (letter : table.expand? a = some [a])
    (accent : table.expand? b = some [b]) (apart : table.compose? a b = none) :
    normalize table [a, b] = [a, b] := by
  have decomposed : decompose table [a, b] = [a, b] := by
    simp [decompose, letter, accent, orderMarks, starter, mark, insertMark]
  rw [normalize, decomposed, composeAll, if_pos starter]
  simp [composeFrom, mark, apart]

/-- No entry of the table leads from an acute accent, or to one on an `x`. -/
theorem canonicalEntries_leave_acute : ∀ entry ∈ canonicalEntries,
    entry.whole ≠ '\u0301' ∧ entry.parts ≠ ['x', '\u0301'] := by
  intro entry member
  have leaves := (canonicalEntries_pass entry member).2.1
  rw [CanonicalEntry.leavesAcute, Bool.and_eq_true, bne_iff_ne, bne_iff_ne] at leaves
  exact leaves

/-- An acute accent does not decompose. -/
theorem canonicalExpansion_acute : canonicalExpansion '\u0301' = ['\u0301'] := by
  have unlisted : canonicalEntryFor? '\u0301' = none := by
    unfold canonicalEntryFor?
    refine List.find?_eq_none.mpr fun entry member => ?_
    simpa using (canonicalEntries_leave_acute entry member).1
  have syllable : expandHangul? '\u0301' = none := by decide
  rw [canonicalExpansion, if_neg (by decide), syllable, Option.getD_none]
  exact expandBy_of_unlisted 4 unlisted

/-- An `x` and an acute accent do not compose. -/
theorem canonicalComposition?_x_acute : canonicalComposition? 'x' '\u0301' = none := by
  have unlisted : (canonicalEntries.find? fun entry =>
      entry.composes && entry.parts = ['x', '\u0301']) = none := by
    refine List.find?_eq_none.mpr fun entry member => ?_
    simp [(canonicalEntries_leave_acute entry member).2]
  have syllable : composeHangul? 'x' '\u0301' = none := by decide
  rw [canonicalComposition?, if_neg (by decide), syllable, Option.orElse,
    unlisted, Option.map_none]

/-- An `x` with an acute accent is in normal form. -/
theorem normalize_x_acute : normalize canonical ['x', '\u0301'] = ['x', '\u0301'] := by
  have letter : canonicalExpansion 'x' = ['x'] := if_pos (by decide)
  refine normalize_pair (by decide) (by decide) ?_ ?_ ?_
  · rw [canonical_expand?, letter]
  · rw [canonical_expand?, canonicalExpansion_acute]
  · rw [canonical_compose?, canonicalComposition?_x_acute]

end MarkdownSite.Unicode
