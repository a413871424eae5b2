import MarkdownSite.Proofs.Url.Escapes
import MarkdownSite.Proofs.Url.Lead

/-!
# What follows the authority of a URL

Path, query and fragment are written with percent escapes, a query and a fragment behind their
marks, and what was left of an authority may precede them. What is read there says what was written
exactly if no mark and no escape was among the data, and what was left is a mark that changes
nothing.
-/

namespace MarkdownSite.Url

open Text

/-! ## Parts that are written -/

/-- A part of a URL as it is written. -/
def written (t : Text) : Text := percentEncode safeCharacters t

/-- A part of a URL behind the mark that opens it; an empty part needs none. -/
def behind (mark : Char) (t : Text) : Text := if t.isEmpty then [] else mark :: t

/-- What is written comes back exactly if it has no escape. -/
theorem percentDecode_written_eq_iff (t : Text) :
    percentDecode (written t) = t ↔ hasEscape t = false :=
  percentDecode_percentEncode_eq_iff (by decide) (by decide) t

/-- An escape among the data is decoded with those that were written. -/
example : percentDecode (written "%41 B".toList) = "A B".toList := by decide +kernel

/-- What is written does not come back longer. -/
theorem length_percentDecode_written (t : Text) : (percentDecode (written t)).length ≤ t.length :=
  Nat.le_of_add_right_le (length_percentDecode_percentEncode (by decide) (by decide) t)

/-- Nothing is all that is decoded to nothing. -/
theorem percentDecode_eq_nil_iff {t : Text} : percentDecode t = [] ↔ t = [] := by
  constructor
  · intro none
    by_contra present
    exact percentDecodeFrom_ne_nil (.inr present) none
  · rintro rfl
    rfl

/-- Nothing is all that is written as nothing. -/
theorem written_eq_nil_iff {t : Text} : written t = [] ↔ t = [] := percentEncode_eq_nil_iff

section Mark

variable {c : Char}

/-- The marks that end an authority stand for themselves and belong to no escape. -/
theorem mark_plain (mark : endsAuthority c = true) :
    c.toNat < 128 ∧ hexDigit? c = none ∧ c ≠ '%' ∧ standsForItself safeCharacters c = true := by
  simp only [endsAuthority, Bool.or_eq_true, beq_iff_eq] at mark
  rcases mark with (rfl | rfl) | rfl <;> decide

/-- Decoding loses no marks. -/
theorem count_le_of_mark (mark : endsAuthority c = true) (t : Text) :
    t.count c ≤ (percentDecode t).count c := by
  obtain ⟨ascii, noDigit, plain, -⟩ := mark_plain mark
  exact count_le_count_percentDecode ascii noDigit plain t

/-- A part is written with the marks that it has. -/
theorem count_written (mark : endsAuthority c = true) (t : Text) :
    (written t).count c = t.count c := by
  obtain ⟨-, noDigit, plain, itself⟩ := mark_plain mark
  exact count_percentEncode noDigit plain itself t

/-- A mark stands in what is written if it stands in the part. -/
theorem mem_written_iff (mark : endsAuthority c = true) {t : Text} : c ∈ written t ↔ c ∈ t := by
  obtain ⟨-, noDigit, plain, itself⟩ := mark_plain mark
  exact mem_percentEncode_iff noDigit plain itself

/-- A mark divides what is written as it divides the part. -/
theorem written_eq_append_cons (mark : endsAuthority c = true) {t before after : Text}
    (whole : written t = before ++ c :: after) :
    ∃ s u, t = s ++ c :: u ∧ written s = before ∧ written u = after := by
  obtain ⟨-, noDigit, plain, -⟩ := mark_plain mark
  exact percentEncode_eq_append_cons noDigit plain whole

/-! ## Cutting at a mark -/

/-- A text without a mark is not cut. -/
theorem splitAt_of_not_mem {t : Text} (absent : c ∉ t) : splitAt c t = (t, []) := by
  unfold splitAt
  rw [splitFirst_eq_none absent]
  rfl

/-- A text is cut at its first mark. -/
theorem splitAt_append {before : Text} (absent : c ∉ before) (after : Text) :
    splitAt c (before ++ c :: after) = (before, after) := by
  unfold splitAt
  rw [splitFirst_singleton absent]
  rfl

/-- A text is cut before a part behind its mark. -/
theorem splitAt_behind {before : Text} (absent : c ∉ before) (part : Text) :
    splitAt c (before ++ behind c part) = (before, part) := by
  cases part with
  | nil =>
    rw [behind, List.isEmpty_nil, if_pos rfl, List.append_nil]
    exact splitAt_of_not_mem absent
  | cons d part => exact splitAt_append absent (d :: part)

/-- What is read behind the first mark is what was written behind a mark only if this is the
first. -/
theorem cut_of_mark (mark : endsAuthority c = true) {before part more : Text} (none : c ∉ more)
    (read : percentDecode (splitAt c (before ++ c :: written part)).2 = part ++ more) :
    c ∉ before ∧ more = [] ∧ hasEscape part = false := by
  by_cases present : c ∈ before
  · -- more marks would be read than were written
    obtain ⟨start, middle, rfl, first⟩ := List.eq_append_cons_of_mem present
    rw [List.append_assoc, List.cons_append, splitAt_append first] at read
    have marks := count_le_of_mark mark (middle ++ c :: written part)
    rw [read, List.count_append, List.count_append, List.count_cons_self, count_written mark,
      List.count_eq_zero_of_not_mem none] at marks
    omega
  · -- what is decoded is not longer than what was written
    rw [splitAt_append present] at read
    have bound := length_percentDecode_written part
    rw [read, List.length_append] at bound
    obtain rfl : more = [] := List.eq_nil_of_length_eq_zero (by omega)
    rw [List.append_nil] at read
    exact ⟨present, rfl, (percentDecode_written_eq_iff part).mp read⟩

/-- Nothing is read behind the first mark only if there is none or if it comes last. -/
theorem cut_of_nil {t : Text} (read : percentDecode (splitAt c t).2 = []) :
    splitAt c t = (t, []) ∧ c ∉ t ∨ ∃ before, t = before ++ [c] ∧ c ∉ before ∧
      splitAt c t = (before, []) := by
  by_cases present : c ∈ t
  · obtain ⟨before, after, rfl, first⟩ := List.eq_append_cons_of_mem present
    rw [splitAt_append first] at read ⊢
    obtain rfl : after = [] := percentDecode_eq_nil_iff.mp read
    exact .inr ⟨before, rfl, first, rfl⟩
  · exact .inl ⟨splitAt_of_not_mem present, present⟩

/-- What is read behind the first mark is what was written behind its mark only if no mark comes
before, unless nothing was written and a mark comes last. -/
theorem cut_cases (mark : endsAuthority c = true) {before part : Text}
    (read : percentDecode (splitAt c (before ++ behind c (written part))).2 = part) :
    (c ∉ before ∧ hasEscape part = false ∧
        (splitAt c (before ++ behind c (written part))).1 = before) ∨
      part = [] ∧ ∃ start, before = start ++ [c] ∧ c ∉ start ∧
        (splitAt c (before ++ behind c (written part))).1 = start := by
  by_cases empty : part = []
  · subst empty
    rw [show before ++ behind c (written []) = before from List.append_nil before] at read ⊢
    rcases cut_of_nil read with ⟨same, absent⟩ | ⟨start, rfl, absent, same⟩
    · exact .inl ⟨absent, rfl, by rw [same]⟩
    · exact .inr ⟨rfl, start, rfl, absent, by rw [same]⟩
  · have present : (written part).isEmpty = false :=
      List.isEmpty_eq_false_iff.mpr fun none => empty (written_eq_nil_iff.mp none)
    have whole : behind c (written part) = c :: written part := by
      rw [behind, present]
      rfl
    rw [whole] at read ⊢
    obtain ⟨absent, -, plain⟩ := cut_of_mark mark List.not_mem_nil (by rwa [List.append_nil])
    exact .inl ⟨absent, plain, by rw [splitAt_append absent]⟩

end Mark

/-! ## Path, query and fragment -/

/-- Whether path, query and fragment of what follows an authority are the given ones, their escapes
decoded. -/
def ReadsAs (t path query fragment : Text) : Prop :=
  percentDecode (splitTail t).1 = path ∧ percentDecode (splitTail t).2.1 = query ∧
    percentDecode (splitTail t).2.2 = fragment

/-- What a query and a fragment are written as after the path. -/
def queryAndFragment (query fragment : Text) : Text :=
  behind '?' (written query) ++ behind '#' (written fragment)

/-- The marks that may be left of an authority and change nothing: one that opens a query or a
fragment that is empty like all that precedes it. -/
def IsEmptyMark (path query fragment left : Text) : Prop :=
  left = [] ∨ path = [] ∧ query = [] ∧ (left = "?" ∨ fragment = [] ∧ (left = "#" ∨ left = "?#"))

variable {left path query fragment : Text}

/-- Parts in which no mark stands that ends them are read as they are written. -/
theorem splitTail_written (noMark : '?' ∉ path) (noHash : '#' ∉ path) (queryPlain : '#' ∉ query) :
    splitTail (written path ++ queryAndFragment query fragment) =
      (written path, written query, written fragment) := by
  have absent : '#' ∉ written path ++ behind '?' (written query) := by
    have queryAbsent : '#' ∉ behind '?' (written query) := by
      unfold behind
      split
      · exact List.not_mem_nil
      · simpa using queryPlain ∘ (mem_written_iff (by decide)).mp
    rw [List.mem_append, not_or]
    exact ⟨noHash ∘ (mem_written_iff (by decide)).mp, queryAbsent⟩
  unfold splitTail queryAndFragment
  rw [← List.append_assoc, splitAt_behind absent]
  dsimp only
  rw [splitAt_behind (noMark ∘ (mem_written_iff (by decide)).mp)]

/-- A query that is written does not end with the mark of a fragment if it is read without it. -/
theorem ne_of_read_query (present : query ≠ []) {rest : Text}
    (whole : path ++ behind '?' (written query) = rest ++ ['#']) :
    percentDecode (splitAt '?' rest).2 ≠ query := by
  intro read
  have opened : behind '?' (written query) = '?' :: written query := by
    rw [behind, List.isEmpty_eq_false_iff.mpr fun none => present (written_eq_nil_iff.mp none)]
    rfl
  obtain none | ⟨before, last, ends⟩ := List.eq_nil_or_concat (written query)
  · exact present (written_eq_nil_iff.mp none)
  have same : (path ++ '?' :: before) ++ [last] = rest ++ ['#'] := by
    rw [← whole, opened, ends, List.concat_eq_append]
    simp
  obtain ⟨rfl, lastMark⟩ := List.append_inj' same rfl
  cases lastMark
  rw [List.concat_eq_append] at ends
  obtain ⟨start, tail, rfl, rfl, none⟩ := written_eq_append_cons (by decide) ends
  rw [written_eq_nil_iff.mp none] at read
  cases (cut_of_mark (by decide) (by decide) read).2.1

/-- Where a query and a fragment are read as they were written, what precedes them is read as the
path, but for the marks of parts that are empty. -/
theorem exists_marks
    (readQuery : percentDecode (splitTail (path ++ queryAndFragment query fragment)).2.1 = query)
    (readFragment :
      percentDecode (splitTail (path ++ queryAndFragment query fragment)).2.2 = fragment) :
    ∃ start marks, (splitTail (path ++ queryAndFragment query fragment)).1 = start ∧
      path = start ++ marks ∧ '?' ∉ start ∧ '#' ∉ start ∧ IsEmptyMark [] query fragment marks ∧
      '#' ∉ query ∧ hasEscape query = false ∧ hasEscape fragment = false := by
  unfold splitTail queryAndFragment at *
  rw [← List.append_assoc] at *
  dsimp only at *
  rcases cut_cases (by decide) readFragment with
    ⟨noHash, plain, rest⟩ | ⟨rfl, rest, whole, noHash, same⟩
  · rw [rest] at readQuery ⊢
    rw [List.mem_append, not_or] at noHash
    rcases cut_cases (by decide) readQuery with
      ⟨noMark, plainQuery, same⟩ | ⟨rfl, start, rfl, noMark, same⟩
    · have queryPlain : '#' ∉ query := by
        intro member
        refine noHash.2 ?_
        have inside := (mem_written_iff (by decide)).mpr member
        rw [behind, List.isEmpty_eq_false_iff.mpr (List.ne_nil_of_mem inside)]
        exact List.mem_cons_of_mem _ inside
      exact ⟨path, [], same, (List.append_nil path).symm, noMark, noHash.1, .inl rfl, queryPlain,
        plainQuery, plain⟩
    · have startPlain : '#' ∉ start := fun member => noHash.1 (List.mem_append_left _ member)
      exact ⟨start, "?", same, rfl, noMark, startPlain, .inr ⟨rfl, rfl, .inl rfl⟩, List.not_mem_nil,
        rfl, plain⟩
  · rw [same] at readQuery ⊢
    by_cases empty : query = []
    · subst empty
      obtain rfl : path = rest ++ ['#'] := by rw [← whole]; exact (List.append_nil path).symm
      rcases cut_of_nil readQuery with ⟨uncut, noMark⟩ | ⟨start, rfl, noMark, cut⟩
      · exact ⟨rest, "#", by rw [uncut], rfl, noMark, noHash, .inr ⟨rfl, rfl, .inr ⟨rfl, .inl rfl⟩⟩,
          List.not_mem_nil, rfl, rfl⟩
      · have startPlain : '#' ∉ start := fun member => noHash (List.mem_append_left _ member)
        exact ⟨start, "?#", by rw [cut], List.append_assoc .., noMark, startPlain,
          .inr ⟨rfl, rfl, .inr ⟨rfl, .inr rfl⟩⟩, List.not_mem_nil, rfl, rfl⟩
    · exact absurd readQuery (ne_of_read_query empty whole)

/-- Where a path is read as it was written, nothing was left before it and no mark follows, or it is
empty and what was left is the marks. -/
theorem left_cases {start marks : Text} (opens : ∀ c ∈ left.head?, endsAuthority c = true)
    (whole : left ++ written path = start ++ marks) (noMark : '?' ∉ start) (noHash : '#' ∉ start)
    (noSlash : '/' ∉ marks) (ends : ∀ c ∈ marks.head?, endsAuthority c = true)
    (read : percentDecode start = path) :
    (left = [] ∧ marks = [] ∧ written path = start ∧ hasEscape path = false) ∨
      path = [] ∧ left = marks := by
  cases left with
  | nil =>
    left
    rw [List.nil_append] at whole
    cases marks with
    | nil =>
      rw [List.append_nil] at whole
      rw [← whole] at read
      exact ⟨rfl, rfl, whole, (percentDecode_written_eq_iff path).mp read⟩
    | cons c marks =>
      obtain ⟨before, after, rfl, rfl, -⟩ := written_eq_append_cons (ends c rfl) whole
      have bound := length_percentDecode_written before
      rw [read, List.length_append, List.length_cons] at bound
      omega
  | cons c left =>
    have mark := opens c rfl
    cases start with
    | nil =>
      obtain rfl : path = [] := read.symm
      exact .inr ⟨rfl, by rw [← List.nil_append marks, ← whole]; exact (List.append_nil _).symm⟩
    | cons d start =>
      -- the path would have one slash more than was written
      exfalso
      obtain rfl : c = d := (List.cons.inj whole).1
      have slash : c = '/' := by
        simp only [endsAuthority, Bool.or_eq_true, beq_iff_eq] at mark
        rcases mark with (slash | rfl) | rfl
        · exact slash
        · exact absurd List.mem_cons_self noMark
        · exact absurd List.mem_cons_self noHash
      subst slash
      have counted := congrArg (List.count '/') whole
      have kept := count_le_of_mark mark ('/' :: start)
      rw [read] at kept
      rw [List.count_append, List.count_append, count_written mark, List.count_cons_self,
        List.count_eq_zero_of_not_mem noSlash] at counted
      omega

/-- **Path, query and fragment are read as they were written** exactly if no mark that ends a part
stands in it and none has an escape, and if what was left of an authority before them is nothing or
marks of parts that are empty. -/
theorem readsAs_written_iff (opens : ∀ c ∈ left.head?, endsAuthority c = true) :
    ReadsAs (left ++ (written path ++ queryAndFragment query fragment)) path query fragment ↔
      ('?' ∉ path ∧ '#' ∉ path ∧ '#' ∉ query) ∧
        (hasEscape path = false ∧ hasEscape query = false ∧ hasEscape fragment = false) ∧
        IsEmptyMark path query fragment left := by
  rw [← List.append_assoc]
  constructor
  · rintro ⟨readPath, readQuery, readFragment⟩
    obtain ⟨start, marks, same, whole, noMark, noHash, empty, queryPlain, plainQuery, plain⟩ :=
      exists_marks readQuery readFragment
    rw [same] at readPath
    have noSlash : '/' ∉ marks := by
      rcases empty with rfl | ⟨-, -, rfl | ⟨-, rfl | rfl⟩⟩ <;> decide
    have ends : ∀ c ∈ marks.head?, endsAuthority c = true := by
      rcases empty with rfl | ⟨-, -, rfl | ⟨-, rfl | rfl⟩⟩ <;> simp [endsAuthority]
    rcases left_cases opens whole noMark noHash noSlash ends readPath with
      ⟨rfl, rfl, rfl, plainPath⟩ | ⟨rfl, rfl⟩
    · rw [mem_written_iff (by decide)] at noMark noHash
      exact ⟨⟨noMark, noHash, queryPlain⟩, ⟨plainPath, plainQuery, plain⟩, .inl rfl⟩
    · exact ⟨⟨List.not_mem_nil, List.not_mem_nil, queryPlain⟩, ⟨rfl, plainQuery, plain⟩, empty⟩
  · rintro ⟨⟨noMark, noHash, queryPlain⟩, ⟨plainPath, plainQuery, plain⟩, empty⟩
    have readFragment := (percentDecode_written_eq_iff fragment).mpr plain
    rcases empty with rfl | ⟨rfl, rfl, rfl | ⟨rfl, rfl | rfl⟩⟩
    · rw [List.nil_append, ReadsAs, splitTail_written noMark noHash queryPlain]
      exact ⟨(percentDecode_written_eq_iff path).mpr plainPath,
        (percentDecode_written_eq_iff query).mpr plainQuery, readFragment⟩
    · have cut : splitAt '#' (['?'] ++ behind '#' (written fragment)) = (['?'], written fragment) :=
        splitAt_behind (by decide) _
      change ReadsAs (['?'] ++ behind '#' (written fragment)) [] [] fragment
      rw [ReadsAs, splitTail, cut]
      exact ⟨rfl, rfl, readFragment⟩
    · exact ⟨rfl, rfl, rfl⟩
    · exact ⟨rfl, rfl, rfl⟩

end MarkdownSite.Url
