import MarkdownSite.Proofs.Url.Emitted
import MarkdownSite.Proofs.Url.Tail
import MarkdownSite.Url.Site

/-!
# Queries that survive encoding

Before a URL is encoded its references are decoded, those without a semicolon too. In a query of
plain names and values such a reference stands where a name after an ampersand starts like that of
a reference. The statement here says that these queries, and no others, do not survive.
-/

namespace MarkdownSite.Url

open Text

/-! ## Plain queries -/

/-- The name and the value of a parameter as they are written. -/
def pairText (pair : Text × Text) : Text := pair.1 ++ '=' :: pair.2

/-- The parameters of a query as they are written. -/
def queryText (pairs : List (Text × Text)) : Text := join "&" (pairs.map pairText)

/-- A parameter with a name, its name and its value of letters and digits. -/
structure IsPlainPair (pair : Text × Text) : Prop where
  /-- The name is not empty. -/
  named : pair.1 ≠ []
  /-- Name and value have letters and digits only. -/
  characters : ∀ c ∈ pair.1 ++ pair.2, c.isAlphanum = true

/-- A path of the site of slashes, letters and digits. -/
structure IsPlainPath (path : Text) : Prop where
  /-- The path is one of the site. -/
  relative : isSiteRelative path = true
  /-- The path has slashes, letters and digits only. -/
  characters : ∀ c ∈ path, c = '/' ∨ c.isAlphanum = true

instance (pair : Text × Text) : Decidable (IsPlainPair pair) :=
  have := List.decidableBAll (fun c => c.isAlphanum = true) (pair.1 ++ pair.2)
  decidable_of_iff (pair.1 ≠ [] ∧ ∀ c ∈ pair.1 ++ pair.2, c.isAlphanum = true)
    ⟨fun plain => ⟨plain.1, plain.2⟩, fun plain => ⟨plain.named, plain.characters⟩⟩

instance (path : Text) : Decidable (IsPlainPath path) :=
  have := List.decidableBAll (fun c => c = '/' ∨ c.isAlphanum = true) path
  decidable_of_iff (isSiteRelative path = true ∧ ∀ c ∈ path, c = '/' ∨ c.isAlphanum = true)
    ⟨fun plain => ⟨plain.1, plain.2⟩, fun plain => ⟨plain.relative, plain.characters⟩⟩

/-- A query is its first parameter and the others, each after an ampersand. -/
theorem queryText_cons (first : Text × Text) (others : List (Text × Text)) :
    queryText (first :: others) =
      pairText first ++ others.flatMap fun pair => '&' :: pairText pair := by
  induction others generalizing first with
  | nil => simp [queryText, join]
  | cons second others ih =>
    have whole := ih second
    unfold queryText at whole ⊢
    rw [List.map_cons, List.map_cons, join, ← List.map_cons, whole]
    · simp
    · simp

/-- A letter or a digit is no mark. -/
theorem ne_of_isAlphanum {c mark : Char} (plain : c.isAlphanum = true)
    (other : mark.isAlphanum = false) : c ≠ mark := by
  rintro rfl
  rw [plain] at other
  cases other

/-- A parameter that is written has the equals sign, letters and digits only. -/
theorem IsPlainPair.of_mem {pair : Text × Text} (plain : IsPlainPair pair) {c : Char}
    (member : c ∈ pairText pair) : c = '=' ∨ c.isAlphanum = true := by
  simp only [pairText, List.mem_append, List.mem_cons] at member
  rcases member with name | rfl | value
  · exact .inr (plain.characters c (List.mem_append_left _ name))
  · exact .inl rfl
  · exact .inr (plain.characters c (List.mem_append_right _ value))

/-- The characters of a parameter may stand in the name of a reference, and in a URL they stand for
themselves. -/
theorem queryChar_spec {c : Char} (plain : c = '=' ∨ c.isAlphanum = true) :
    isEntityNameChar c = true ∧ standsForItself safeCharacters c = true ∧ isQuiet c = true := by
  rcases plain with rfl | plain
  · decide
  · have apart {mark : Char} (other : mark.isAlphanum = false) : c ≠ mark :=
      ne_of_isAlphanum plain other
    have visible : 32 < c.toNat := lt_of_class (by decide) plain
    refine ⟨?_, ?_, ?_⟩
    · simp [isEntityNameChar, apart]
    · simp [standsForItself, isUnreserved, plain]
    · simp [isQuiet, apart, visible]

section Path

variable {path : Text} (plain : IsPlainPath path)

include plain

/-- A plain path has no marks but slashes. -/
theorem IsPlainPath.not_mem {mark : Char} (slash : mark ≠ '/') (other : mark.isAlphanum = false) :
    mark ∉ path := fun member =>
  (plain.characters mark member).elim slash fun letter => ne_of_isAlphanum letter other rfl

/-- A plain path does not start like an authority. -/
theorem IsPlainPath.startsWith_slashes : startsWith "//" path = false := by
  have relative := plain.relative
  simp only [isSiteRelative, List.any_cons, Bool.not_eq_true', Bool.or_eq_false_iff] at relative
  exact relative.2.1

/-- The characters of a plain path stand for themselves and can be seen. -/
theorem IsPlainPath.spec_of_mem {c : Char} (member : c ∈ path) :
    standsForItself safeCharacters c = true ∧ isQuiet c = true := by
  rcases plain.characters c member with rfl | letter
  · decide
  · exact (queryChar_spec (.inr letter)).2

end Path

/-! ## References in a query -/

/-- A parameter that is read as a reference without a semicolon stays if no beginning of its name is
that of a reference; if one is, less is left. -/
theorem decodeOpen_pairText {pair : Text × Text} (plain : IsPlainPair pair) :
    (decodeOpen (pairText pair) = '&' :: pairText pair ↔
      ∀ name, name <+: pair.1 → namedEntity? name = none) ∧
    (decodeOpen (pairText pair)).length ≤ ('&' :: pairText pair).length ∧
    ∀ c ∈ decodeOpen (pairText pair), isQuiet c = true := by
  have own {c : Char} (member : c ∈ pairText pair) := queryChar_spec (plain.of_mem member)
  have unclosed : ';' ∉ pairText pair := fun member => absurd (own member).1 (by decide)
  have begins {name : Text} (start : name <+: pair.1) : name <+: pairText pair :=
    start.trans (List.prefix_append _ _)
  rcases decodeOpen_cases unclosed with ⟨unknown, stays⟩ | ⟨name, value, rest, whole, known, read⟩
  · rw [stays]
    refine ⟨iff_of_true rfl fun name start => unknown name (begins start), Nat.le_refl _, ?_⟩
    intro c member
    rcases List.mem_cons.mp member with rfl | inside
    · decide
    · exact (own inside).2.2
  · have start : name <+: pairText pair := ⟨rest, whole.symm⟩
    obtain ⟨-, -, sign, shorter, visible⟩ := namedEntity?_open known (unclosed ∘ (start.mem ·))
    have inName : name <+: pair.1 := by
      refine (isPrefix_append_iff ?_).mp start
      intro c first
      cases first
      exact sign
    have less : (decodeOpen (pairText pair)).length < ('&' :: pairText pair).length := by
      rw [read, whole, List.length_cons, List.length_append, List.length_append]
      omega
    refine ⟨iff_of_false (fun same => ?_) fun unknown => ?_, Nat.le_of_lt less, ?_⟩
    · rw [same] at less
      exact Nat.lt_irrefl _ less
    · rw [unknown name inName] at known
      cases known
    · intro c member
      rw [read] at member
      rcases List.mem_append.mp member with new | kept
      · exact visible c new
      · exact (own (whole ▸ List.mem_append_right name kept)).2.2

/-- Each parameter after an ampersand is read by itself. -/
theorem decodeEntities_pairs {pairs : List (Text × Text)}
    (plain : ∀ pair ∈ pairs, IsPlainPair pair) :
    decodeEntities (pairs.flatMap fun pair => '&' :: pairText pair) =
      pairs.flatMap fun pair => decodeOpen (pairText pair) := by
  induction pairs with
  | nil => rfl
  | cons pair pairs ih =>
    have present : pairText pair ≠ [] := by simp [pairText]
    have letters : ∀ c ∈ pairText pair, isEntityNameChar c = true := fun c member =>
      (queryChar_spec ((plain pair List.mem_cons_self).of_mem member)).1
    have ends : ∀ c ∈ (pairs.flatMap fun pair => '&' :: pairText pair).head?, c = '&' := by
      cases pairs with
      | nil => simp
      | cons next pairs => simp
    rw [List.flatMap_cons, List.flatMap_cons, List.cons_append,
      decodeEntities_open present letters ends,
      ih fun pair member => plain pair (List.mem_cons_of_mem _ member)]

/-- Of two ways to write parameters one after the other, one of which is never longer, both give the
same exactly if they do for each parameter. -/
theorem flatMap_eq_iff {f g : Text × Text → Text} {pairs : List (Text × Text)}
    (shorter : ∀ pair ∈ pairs, (f pair).length ≤ (g pair).length) :
    (pairs.flatMap f).length ≤ (pairs.flatMap g).length ∧
      (pairs.flatMap f = pairs.flatMap g ↔ ∀ pair ∈ pairs, f pair = g pair) := by
  induction pairs with
  | nil => simp
  | cons pair pairs ih =>
    obtain ⟨bound, same⟩ := ih fun pair member => shorter pair (List.mem_cons_of_mem _ member)
    have first := shorter pair List.mem_cons_self
    rw [List.flatMap_cons, List.flatMap_cons, List.length_append, List.length_append,
      List.forall_mem_cons, ← same]
    refine ⟨Nat.add_le_add first bound, fun whole => ?_, fun both => by rw [both.1, both.2]⟩
    have sum := congrArg List.length whole
    rw [List.length_append, List.length_append] at sum
    exact List.append_inj whole (by omega)

section Query

variable {first : Text × Text} {others : List (Text × Text)}
  (plain : ∀ pair ∈ first :: others, IsPlainPair pair)

include plain

/-- The first parameter of a query is read as it is written, each other one by itself. -/
theorem decodeEntities_queryText :
    decodeEntities (queryText (first :: others)) =
      pairText first ++ others.flatMap fun pair => decodeOpen (pairText pair) := by
  have noReference : '&' ∉ pairText first := fun member =>
    absurd (queryChar_spec ((plain first List.mem_cons_self).of_mem member)).1 (by decide)
  rw [queryText_cons, decodeEntities, browserReferences.decode_append noReference,
    ← decodeEntities_pairs fun pair member => plain pair (List.mem_cons_of_mem _ member)]
  rfl

/-- A query whose references are decoded opens no escape and no fragment. -/
theorem isQuiet_of_decodeEntities :
    ∀ c ∈ decodeEntities (queryText (first :: others)), isQuiet c = true := by
  intro c member
  rw [decodeEntities_queryText plain] at member
  rcases List.mem_append.mp member with own | other
  · exact (queryChar_spec ((plain first List.mem_cons_self).of_mem own)).2.2
  · obtain ⟨pair, listed, inside⟩ := List.mem_flatMap.mp other
    exact (decodeOpen_pairText (plain pair (List.mem_cons_of_mem _ listed))).2.2 c inside

/-- A query has no references exactly if none of its parameters but the first has a name that starts
like that of a reference. -/
theorem decodeEntities_queryText_eq_iff :
    decodeEntities (queryText (first :: others)) = queryText (first :: others) ↔
      ∀ pair ∈ others, ∀ name, name <+: pair.1 → namedEntity? name = none := by
  have each (pair : Text × Text) (listed : pair ∈ others) :=
    decodeOpen_pairText (plain pair (List.mem_cons_of_mem _ listed))
  rw [decodeEntities_queryText plain, queryText_cons, List.append_cancel_left_eq,
    (flatMap_eq_iff fun pair listed => (each pair listed).2.1).2]
  exact forall₂_congr fun pair listed => (each pair listed).1

/-- The characters of a query stand for themselves, and none opens an escape or a fragment. -/
theorem spec_of_mem_queryText :
    ∀ c ∈ queryText (first :: others),
      standsForItself safeCharacters c = true ∧ isQuiet c = true := by
  have own {pair : Text × Text} (listed : pair ∈ first :: others) {c : Char}
      (member : c ∈ pairText pair) : standsForItself safeCharacters c = true ∧ isQuiet c = true :=
    (queryChar_spec ((plain pair listed).of_mem member)).2
  intro c member
  rw [queryText_cons, List.mem_append] at member
  rcases member with inFirst | inOthers
  · exact own List.mem_cons_self inFirst
  · obtain ⟨pair, listed, inside⟩ := List.mem_flatMap.mp inOthers
    rcases List.mem_cons.mp inside with rfl | inPair
    · decide
    · exact own (List.mem_cons_of_mem _ listed) inPair

end Query

/-! ## Encoding -/

/-- A text without a colon has no scheme. -/
theorem splitScheme_of_not_mem {t : Text} (absent : ':' ∉ t) : splitScheme t = ([], t) := by
  have uncut : splitFirst ":" t = none := splitFirst_eq_none absent
  cases t with
  | nil => rfl
  | cons c t =>
    unfold splitScheme
    simp only [uncut]

/-- A plain path and a query are the URL that is read from them. -/
theorem parse_plain {path query : Text} (site : IsPlainPath path)
    (quiet : ∀ c ∈ query, isQuiet c = true) :
    Parts.parse (path ++ '?' :: query) = .ok { path, query } := by
  have whole : ∀ c ∈ path ++ '?' :: query, isQuiet c = true := by
    intro c member
    simp only [List.mem_append, List.mem_cons] at member
    rcases member with inPath | rfl | inQuery
    · exact (site.spec_of_mem inPath).2
    · decide
    · exact quiet c inQuery
  have visible : ∀ c ∈ path ++ '?' :: query, 32 < c.toNat := fun c member =>
    lt_of_class (by decide) (whole c member)
  have ends : ∀ c ∈ ('?' :: query).head?, c = '?' ∨ c = '#' := by simp
  have slashes : ¬"//".toList <+: path := by
    rw [← startsWith_iff, site.startsWith_slashes]
    exact Bool.false_ne_true
  have clean : cleanUrl (path ++ '?' :: query) = path ++ '?' :: query := by
    rw [cleanUrl_of_head fun c first => visible c (List.mem_of_mem_head? first)]
    exact List.filter_eq_self.mpr fun c member => isKept_of_lt (visible c member)
  have scheme : splitScheme (path ++ '?' :: query) = ([], path ++ '?' :: query) := by
    rw [splitScheme_append_ending path ends, splitScheme_of_not_mem (site.not_mem (by decide) rfl)]
  have authority : splitAuthority (path ++ '?' :: query) = ([], path ++ '?' :: query) := by
    refine splitAuthority_of_not ?_
    rwa [isPrefix_append_iff (by simp)]
  have noFragment : '#' ∉ path ++ '?' :: query := fun member =>
    absurd (whole '#' member) (by decide)
  have tail : splitTail (path ++ '?' :: query) = (path, query, []) := by
    unfold splitTail
    rw [splitAt_of_not_mem noFragment, splitAt_append (site.not_mem (by decide) rfl)]
  rw [parse_eq_ok_iff]
  unfold start following
  rw [clean, scheme, authority, tail]
  exact ⟨show isReadable [] = true by decide, rfl⟩

/-- A plain path and a query that has no escapes are encoded as they are, but for the characters of
the query that have to be escaped. -/
theorem encodeParts_plain {url path query : Text} (site : IsPlainPath path) (present : query ≠ [])
    (quiet : ∀ c ∈ query, isQuiet c = true) (decoded : decodeEntities url = path ++ '?' :: query) :
    encodeParts url = .ok (path ++ '?' :: percentEncode safeCharacters query) := by
  have noEscape : '%' ∉ query := fun member => absurd (quiet '%' member) (by decide)
  have pathKept : recode path = path := by
    rw [recode, percentDecode_of_not_mem (site.not_mem (by decide) rfl),
      percentEncode_eq_self fun c member => (site.spec_of_mem member).1]
  have queryKept : recode query = percentEncode safeCharacters query := by
    rw [recode, percentDecode_of_not_mem noEscape]
  unfold encodeParts
  simp only [decoded, parse_plain site quiet, bind, Except.bind, pure, Except.pure,
    List.isEmpty_nil, ↓reduceIte, pathKept, queryKept, show recode [] = [] from rfl]
  rw [toText_bare rfl (show hierarchicalSchemes.contains [] = false by decide)
    site.startsWith_slashes]
  simp [Parts.ending, percentEncode_eq_nil_iff, present]

/-- A plain query survives encoding exactly if it has no references. -/
theorem decodeEntities_encode_plain_iff {path : Text} {first : Text × Text}
    {others : List (Text × Text)} (site : IsPlainPath path)
    (plain : ∀ pair ∈ first :: others, IsPlainPair pair) :
    decodeEntities (encode (path ++ '?' :: queryText (first :: others))) =
        path ++ '?' :: queryText (first :: others) ↔
      decodeEntities (queryText (first :: others)) = queryText (first :: others) := by
  have noReference : '&' ∉ path ++ ['?'] := by
    simp only [List.mem_append, List.mem_singleton, not_or]
    exact ⟨site.not_mem (by decide) rfl, by decide⟩
  have decoded : decodeEntities (path ++ '?' :: queryText (first :: others)) =
      path ++ '?' :: decodeEntities (queryText (first :: others)) := by
    have whole := browserReferences.decode_append noReference (queryText (first :: others))
    simpa [decodeEntities] using whole
  have left : decodeEntities (queryText (first :: others)) ≠ [] := by
    rw [decodeEntities_queryText plain]
    simp [pairText]
  have encoded := encodeParts_plain site left (isQuiet_of_decodeEntities plain) decoded
  have written := spec_of_mem_queryText plain
  have unnumbered : '#' ∉ path ++ '?' :: queryText (first :: others) := by
    simp only [List.mem_append, List.mem_cons, not_or]
    exact ⟨site.not_mem (by decide) rfl, by decide, fun member =>
      absurd (written '#' member).2 (by decide)⟩
  have read : decodeEntities (encode (path ++ '?' :: queryText (first :: others))) =
      path ++ '?' :: percentEncode safeCharacters
        (decodeEntities (queryText (first :: others))) := by
    unfold encode
    rw [encode?_eq (checkNumbers_of_unnumbered unnumbered), encoded]
    exact decodeEntities_escapeAttribute _
  rw [read, List.append_cancel_left_eq, List.cons.injEq, eq_self_iff_true, true_and]
  constructor
  · intro survives
    -- what has to be escaped would leave percent signs, and there is none in the query
    have absent : '%' ∉ percentEncode safeCharacters
        (decodeEntities (queryText (first :: others))) := by
      rw [survives]
      exact fun member => absurd (written '%' member).2 (by decide)
    rwa [percentEncode_eq_self_of_not_mem (by decide) absent] at survives
  · intro same
    rw [same, percentEncode_eq_self fun c member => (written c member).1]

/-- **A plain query survives encoding exactly if no parameter but the first has a name that starts
like that of a reference** which may be written without a semicolon. -/
theorem decodeEntities_encode_query_iff {path : Text} {pairs : List (Text × Text)}
    (site : IsPlainPath path) (present : pairs ≠ []) (plain : ∀ pair ∈ pairs, IsPlainPair pair) :
    decodeEntities (encode (path ++ '?' :: queryText pairs)) = path ++ '?' :: queryText pairs ↔
      ∀ pair ∈ pairs.tail, ∀ name, name <+: pair.1 → namedEntity? name = none := by
  obtain ⟨first, others, rfl⟩ := List.exists_cons_of_ne_nil present
  rw [decodeEntities_encode_plain_iff site plain]
  exact decodeEntities_queryText_eq_iff plain

/-- Two parameters with names of one letter survive. -/
theorem decodeEntities_encode_query_of_letters :
    decodeEntities (encode ("/ab" ++ '?' :: queryText [("x", "1"), ("y", "2")])) =
      "/ab" ++ '?' :: queryText [("x", "1"), ("y", "2")] := by
  refine (decodeEntities_encode_query_iff (by decide) (by simp) (by decide)).mpr ?_
  intro pair listed name begins
  rw [List.tail_cons, List.mem_singleton] at listed
  rw [listed] at begins
  cases known : namedEntity? name with
  | none => rfl
  | some value =>
    -- no name of one letter is known
    have unclosed : ';' ∉ name := fun member =>
      absurd (begins.mem member) (by decide : ';' ∉ "y".toList)
    have least := (namedEntity?_open known unclosed).1
    have most : name.length ≤ "y".toList.length := begins.length_le
    exact absurd (Nat.le_trans least most) (by decide)

/-- A parameter with the name `copy` is taken for the sign of copyright. -/
theorem encode_takes_copy_for_reference :
    IsPlainPath "/" ∧
      (∀ pair ∈ [("a".toList, "1".toList), ("copy".toList, "2".toList)], IsPlainPair pair) ∧
      "/" ++ '?' :: queryText [("a", "1"), ("copy", "2")] = "/?a=1&copy=2".toList ∧
      decodeEntities (encode "/?a=1&copy=2") ≠ "/?a=1&copy=2" := by
  have site : IsPlainPath "/" := by decide
  have plain : ∀ pair ∈ [("a".toList, "1".toList), ("copy".toList, "2".toList)],
      IsPlainPair pair := by
    decide
  have whole : "/" ++ '?' :: queryText [("a", "1"), ("copy", "2")] = "/?a=1&copy=2".toList := by
    decide +kernel
  refine ⟨site, plain, whole, ?_⟩
  rw [← whole, ne_eq, decodeEntities_encode_plain_iff site plain,
    decodeEntities_queryText_eq_iff plain]
  intro unknown
  have none := unknown ("copy", "2") (by simp) ['c', 'o', 'p', 'y'] (by decide)
  rw [namedEntity?_copy] at none
  cases none

end MarkdownSite.Url
