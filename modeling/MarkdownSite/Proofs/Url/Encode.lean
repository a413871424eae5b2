import MarkdownSite.Proofs.Text.Basic
import MarkdownSite.Proofs.Url.Percent
import MarkdownSite.Url.Encode

/-!
# What an encoded URL starts with

The scheme of a URL has no colon, and after an authority the path is empty or starts with a slash.
So an encoded URL starts with an unsafe scheme only where its scheme is one, or where it has no
scheme and its path, percent escapes decoded, starts like one.
-/

namespace MarkdownSite.Url

open Text

/-! ## Taking a URL apart -/

/-- What precedes the place where a text is cut. -/
theorem splitAt_fst (c : Char) (t : Text) : (splitAt c t).1 = t.takeWhile (· != c) := by
  unfold splitAt
  induction t with
  | nil => rfl
  | cons d t ih =>
    by_cases same : c = d
    · simp [splitFirst, dropPrefix?, same]
    · have other : (d != c) = true := bne_iff_ne.mpr (Ne.symm same)
      rw [List.takeWhile_cons, if_pos other, ← ih]
      simp only [splitFirst, dropPrefix?, same, ↓reduceIte]
      cases splitFirst [c] t with
      | none => rfl
      | some parts => rfl

/-- No other character has the colon for its lower case. -/
theorem eq_colon_of_toLower {c : Char} (lower : c.toLower = ':') : c = ':' := by
  have other : c.isAlpha = false := by
    rw [← isAlpha_toLower, lower]
    rfl
  rw [← lower, toLower_of_not_isAlpha other]

/-- The scheme that is split off has no colon. -/
theorem colon_not_mem_splitScheme (t : Text) : ':' ∉ (splitScheme t).1 := by
  unfold splitScheme
  split
  · split
    · split
      · rename_i letters
        rw [Bool.and_eq_true, List.all_eq_true] at letters
        intro member
        obtain ⟨c, inside, lower⟩ := List.mem_map.mp member
        have character := letters.2 c inside
        rw [eq_colon_of_toLower lower] at character
        exact absurd character (by decide)
      · simp
    · simp
  · simp

/-- What follows an authority is empty or starts with what ends it. -/
theorem splitAuthority_snd {t : Text} (present : (splitAuthority t).1 ≠ []) :
    ∀ c ∈ (splitAuthority t).2.head?, endsAuthority c = true := by
  unfold splitAuthority at *
  split at present
  · rename_i rest
    intro c first
    have ends := List.head?_dropWhile_not (fun c => !endsAuthority c) rest
    simp only [Option.mem_def] at first
    simp only [first] at ends
    simpa using ends
  · exact absurd rfl present

/-- The parts of a URL that can be taken apart. -/
theorem parse_eq_ok {t : Text} {p : Parts} (parsed : Parts.parse t = .ok p) :
    p.scheme = (splitScheme (cleanUrl t)).1 ∧
      p.authority = (splitAuthority (splitScheme (cleanUrl t)).2).1 ∧
      p.path = (splitAt '?' (splitAt '#' (splitAuthority (splitScheme (cleanUrl t)).2).2).1).1 := by
  unfold Parts.parse Parts.parseWith at parsed
  simp only [bind, Except.bind, pure, Except.pure] at parsed
  split at parsed
  · cases parsed
  split at parsed
  · cases parsed
  · cases parsed
    simp

/-- What is cut off before a query and a fragment where an authority ends is empty or starts with a
slash. -/
theorem head?_splitAt_marks {t : Text} (ends : ∀ c ∈ t.head?, endsAuthority c = true) :
    ∀ c ∈ (splitAt '?' (splitAt '#' t).1).1.head?, c = '/' := by
  rw [splitAt_fst, splitAt_fst]
  cases t with
  | nil => simp
  | cons d t =>
    have delimiter := ends d rfl
    simp only [endsAuthority, Bool.or_eq_true, beq_iff_eq] at delimiter
    rcases delimiter with (rfl | rfl) | rfl <;> simp

/-- After an authority the path is empty or starts with a slash. -/
theorem path_after_authority {t : Text} {p : Parts} (parsed : Parts.parse t = .ok p)
    (present : p.authority ≠ []) : ∀ c ∈ p.path.head?, c = '/' := by
  obtain ⟨-, authority, path⟩ := parse_eq_ok parsed
  rw [authority] at present
  rw [path]
  exact head?_splitAt_marks (splitAuthority_snd present)

/-! ## Unsafe schemes -/

/-- A URL is unsafe if it starts with one of the schemes. -/
theorem isUnsafe_iff {url : Text} :
    isUnsafe url = true ↔ ∃ scheme ∈ unsafeSchemes, scheme <+: url := by
  simp only [isUnsafe, List.any_eq_true, startsWith_iff]

/-- An unsafe scheme is a name without a colon and a colon. -/
theorem unsafeSchemes_eq {scheme : Text} (listed : scheme ∈ unsafeSchemes) :
    scheme = scheme.dropLast ++ [':'] ∧ ':' ∉ scheme.dropLast := by
  revert scheme
  decide

/-- The characters of unsafe schemes stand for themselves, and none ends a path. -/
theorem unsafeSchemes_characters {scheme : Text} (listed : scheme ∈ unsafeSchemes) :
    (∀ c ∈ scheme, standsForItself safeCharacters c = true ∧ c ≠ '%') ∧ '?' ∉ scheme ∧
      '#' ∉ scheme := by
  have checked : ∀ scheme ∈ unsafeSchemes,
      (scheme.all fun c => standsForItself safeCharacters c && c != '%') = true ∧
        '?' ∉ scheme ∧ '#' ∉ scheme := by
    decide
  obtain ⟨characters, marks⟩ := checked scheme listed
  refine ⟨fun c member => ?_, marks⟩
  have both := List.all_eq_true.mp characters c member
  rw [Bool.and_eq_true, bne_iff_ne] at both
  exact both

/-- A URL with a scheme is unsafe exactly if its scheme is. -/
theorem isUnsafe_scheme {scheme : Text} (name : ':' ∉ scheme) (tail : Text) :
    isUnsafe (scheme ++ ':' :: tail) = true ↔ scheme ++ [':'] ∈ unsafeSchemes := by
  rw [isUnsafe_iff]
  constructor
  · rintro ⟨start, listed, begins⟩
    obtain ⟨shape, plain⟩ := unsafeSchemes_eq listed
    rw [shape, isPrefix_append_singleton_iff plain name] at begins
    rwa [← begins, ← shape]
  · intro listed
    exact ⟨_, listed, tail, by simp⟩

/-- Encoding makes a part neither safe nor unsafe. -/
theorem isUnsafe_recode (t : Text) : isUnsafe (recode t) = isUnsafe (percentDecode t) := by
  rw [Bool.eq_iff_iff, isUnsafe_iff, isUnsafe_iff]
  constructor
  · rintro ⟨start, listed, begins⟩
    exact ⟨start, listed,
      (isPrefix_percentEncode (unsafeSchemes_characters listed).1 _).mp begins⟩
  · rintro ⟨start, listed, begins⟩
    exact ⟨start, listed,
      (isPrefix_percentEncode (unsafeSchemes_characters listed).1 _).mpr begins⟩

/-- A query or a fragment makes a path neither safe nor unsafe. -/
theorem isUnsafe_append {path tail : Text} (ends : ∀ c ∈ tail.head?, c = '?' ∨ c = '#') :
    isUnsafe (path ++ tail) = isUnsafe path := by
  have same : ∀ start ∈ unsafeSchemes, start <+: path ++ tail ↔ start <+: path := by
    intro start listed
    refine isPrefix_append_iff fun c first => ?_
    rcases ends c first with rfl | rfl
    · exact (unsafeSchemes_characters listed).2.1
    · exact (unsafeSchemes_characters listed).2.2
  rw [Bool.eq_iff_iff, isUnsafe_iff, isUnsafe_iff]
  exact exists_congr fun start => and_congr_right fun listed => same start listed

/-- What is empty or starts with a slash is not unsafe. -/
theorem isUnsafe_eq_false {url : Text} (slash : ∀ c ∈ url.head?, c = '/') :
    isUnsafe url = false := by
  cases url with
  | nil => decide
  | cons c url =>
    rw [slash c rfl]
    rfl

/-- What is empty or starts with a slash does so after its escapes are decoded. -/
theorem head?_percentDecode {t : Text} (slash : ∀ c ∈ t.head?, c = '/') :
    ∀ c ∈ (percentDecode t).head?, c = '/' := by
  cases t with
  | nil => exact slash
  | cons c t =>
    rw [slash c rfl, percentDecode_cons (by decide) (by decide)]
    simp

/-- The query and the fragment of a URL that is put together again. -/
def Parts.ending (p : Parts) : Text :=
  (if p.query.isEmpty then [] else '?' :: p.query)
    ++ (if p.fragment.isEmpty then [] else '#' :: p.fragment)

/-- Query and fragment start with their marks. -/
theorem Parts.head?_ending (p : Parts) : ∀ c ∈ p.ending.head?, c = '?' ∨ c = '#' := by
  unfold Parts.ending
  cases p.query with
  | cons d query => simp
  | nil =>
    cases p.fragment with
    | nil => simp
    | cons d fragment => simp

/-- What a URL without a scheme starts with when it is put together again. -/
theorem isUnsafe_toText {p : Parts} (none : p.scheme = []) :
    isUnsafe p.toText = (p.authority.isEmpty && isUnsafe p.path) := by
  have whole (place : Text) : place ++ (if p.query.isEmpty then [] else '?' :: p.query)
      ++ (if p.fragment.isEmpty then [] else '#' :: p.fragment) = place ++ p.ending :=
    List.append_assoc ..
  unfold Parts.toText
  simp only [none, List.isEmpty_nil, ↓reduceIte, List.nil_append, whole,
    isUnsafe_append p.head?_ending]
  have relative : hierarchicalSchemes.contains ([] : Text) = false := by decide
  rw [relative, Bool.or_false]
  by_cases written : (!p.authority.isEmpty || startsWith "//" p.path) = true
  · rw [if_pos written, isUnsafe_eq_false (by simp)]
    rcases Bool.or_eq_true_iff.mp written with present | slashes
    · rw [Bool.not_eq_true'] at present
      rw [present, Bool.false_and]
    · obtain ⟨rest, path⟩ := startsWith_iff.mp slashes
      have slash : ∀ c ∈ p.path.head?, c = '/' := by simp [← path]
      rw [isUnsafe_eq_false slash, Bool.and_false]
  · rw [if_neg written]
    simp only [Bool.or_eq_true, not_or, Bool.not_eq_true, Bool.not_eq_false'] at written
    rw [written.1, Bool.true_and]

/-- A URL with a scheme starts with it and a colon when it is put together again. -/
theorem Parts.toText_scheme {p : Parts} (present : p.scheme ≠ []) :
    ∃ tail, p.toText = p.scheme ++ ':' :: tail := by
  unfold Parts.toText
  rw [List.isEmpty_eq_false_iff.mpr present]
  simp only [Bool.false_eq_true, ↓reduceIte, List.append_assoc, List.cons_append, List.nil_append]
  exact ⟨_, rfl⟩

/-- A URL that is encoded can be taken apart. -/
theorem exists_parse_of_encodeParts {url encoded : Text} (done : encodeParts url = .ok encoded) :
    ∃ p, Parts.parse (decodeEntities url) = .ok p := by
  cases parsed : Parts.parse (decodeEntities url) with
  | ok p => exact ⟨p, rfl⟩
  | error e =>
    unfold encodeParts at done
    rw [parsed] at done
    cases done

/-- What is encoded is what was taken apart, its parts encoded each by itself. -/
theorem encodeParts_eq_ok {url encoded : Text} {p : Parts}
    (parsed : Parts.parse (decodeEntities url) = .ok p) (done : encodeParts url = .ok encoded) :
    ∃ authority,
      (p.authority = [] ∧ authority = [] ∨
        p.authority ≠ [] ∧ encodeAuthority (percentDecode p.authority) = .ok authority) ∧
      encoded = Parts.toText {
        scheme := p.scheme
        authority
        path := recode p.path
        query := recode p.query
        fragment := recode p.fragment } := by
  unfold encodeParts at done
  simp only [parsed, bind, Except.bind, pure, Except.pure] at done
  by_cases absent : p.authority.isEmpty = true
  · simp only [absent, ↓reduceIte, Except.ok.injEq] at done
    exact ⟨[], .inl ⟨List.isEmpty_iff.mp absent, rfl⟩, done.symm⟩
  · simp only [absent, Bool.false_eq_true, ↓reduceIte] at done
    cases authority : encodeAuthority (percentDecode p.authority) with
    | error e =>
      rw [authority] at done
      cases done
    | ok written =>
      rw [authority] at done
      cases done
      exact ⟨written, .inr ⟨fun empty => absent (List.isEmpty_iff.mpr empty), rfl⟩, rfl⟩

/-- **An encoded URL starts with an unsafe scheme exactly if its scheme is one**, or if it has none
and its path starts like one. -/
theorem isUnsafe_encodeParts {url encoded : Text} {p : Parts}
    (parsed : Parts.parse (decodeEntities url) = .ok p) (done : encodeParts url = .ok encoded) :
    isUnsafe encoded = true ↔ p.scheme ++ [':'] ∈ unsafeSchemes ∨
      p.scheme = [] ∧ isUnsafe (percentDecode p.path) = true := by
  obtain ⟨authority, given, rfl⟩ := encodeParts_eq_ok parsed done
  by_cases none : p.scheme = []
  · have bare : [] ++ [':'] ∉ unsafeSchemes := by decide
    rw [isUnsafe_toText (by exact none)]
    simp only [bare, none, true_and, false_or, isUnsafe_recode, Bool.and_eq_true,
      List.isEmpty_iff, and_iff_right_iff_imp]
    intro unsafePath
    rcases given with ⟨-, absent⟩ | ⟨present, -⟩
    · exact absent
    · have path := path_after_authority parsed present
      rw [isUnsafe_eq_false (head?_percentDecode path)] at unsafePath
      cases unsafePath
  · have name : ':' ∉ p.scheme := by
      rw [(parse_eq_ok parsed).1]
      exact colon_not_mem_splitScheme _
    obtain ⟨tail, same⟩ := Parts.toText_scheme (p := ⟨p.scheme, authority, recode p.path,
      recode p.query, recode p.fragment⟩) none
    rw [same, isUnsafe_scheme name]
    simp only [none, false_and, or_false]

end MarkdownSite.Url
