import MarkdownSite.Proofs.Url.Emitted
import MarkdownSite.Proofs.Url.Tail

/-!
# What an encoded URL names

A URL that is encoded is to name the same resource: scheme, host, path, query and fragment are to
say the same when it is read again, percent escapes decoded. As the parts are decoded before they
are written, this fails where a mark or an escape was itself escaped. The statement here says
exactly which URLs go on naming their resource.
-/

namespace MarkdownSite.Url

open Text

/-! ## The same resource -/

/-- The host of an authority, its escapes decoded, in ASCII if it has such a form, and in lower
case. -/
def hostName (authority : Text) : Text :=
  let host := percentDecode (writtenHost authority)
  Unicode.lower (if isAscii host then host else (encodeHostName host).toOption.getD host)

/-- Whether two URLs have the same scheme, the same host, and path, query and fragment that say the
same when their escapes are decoded. -/
def Parts.SameResource (p q : Parts) : Prop :=
  p.scheme = q.scheme ∧ hostName p.authority = hostName q.authority ∧
    percentDecode p.path = percentDecode q.path ∧ percentDecode p.query = percentDecode q.query ∧
    percentDecode p.fragment = percentDecode q.fragment

/-! ## What is read -/

/-- A text is a URL for the same resource if its authority can be read and it says the same part by
part. -/
theorem exists_sameResource_iff {t : Text} {p : Parts} :
    (∃ q, Parts.parse t = .ok q ∧ q.SameResource p) ↔
      (start t).1 = p.scheme ∧ (isReadable (start t).2 = true ∧
        hostName (start t).2 = hostName p.authority) ∧
        ReadsAs (following t) (percentDecode p.path) (percentDecode p.query)
          (percentDecode p.fragment) := by
  constructor
  · rintro ⟨q, read, scheme, host, tail⟩
    obtain ⟨readable, rfl⟩ := parse_eq_ok_iff.mp read
    exact ⟨scheme, ⟨readable, host⟩, tail⟩
  · rintro ⟨scheme, ⟨readable, host⟩, tail⟩
    exact ⟨_, parse_eq_ok_iff.mpr ⟨readable, rfl⟩, scheme, host, tail⟩

/-- What follows a scheme and an authority is what is left of the authority and what is written
after it. -/
theorem following_origin {scheme : Text} (valid : IsScheme scheme) (authority : Text) {rest : Text}
    (visible : ∀ c ∈ rest, 32 < c.toNat) (ends : ∀ c ∈ rest.head?, endsAuthority c = true) :
    following (origin scheme authority ++ rest) =
      (authority.filter isKept).dropWhile isInner ++ rest := by
  have kept : rest.filter isKept = rest :=
    List.filter_eq_self.mpr fun c member => isKept_of_lt (visible c member)
  have stops : rest.dropWhile isInner = rest := by
    cases rest with
    | nil => rfl
    | cons c rest => exact List.dropWhile_cons_of_neg (by simp [isInner, ends c rfl])
  unfold following
  rw [splitScheme_origin valid]
  change ((authority ++ rest).filter isKept).dropWhile isInner = _
  rw [List.filter_append, kept, List.dropWhile_append, stops]
  split
  · rename_i empty
    rw [List.isEmpty_iff.mp empty, List.nil_append]
  · rfl

/-- What is read of a text without an authority. -/
theorem start_of_splitScheme {t scheme rest : Text}
    (split : splitScheme (cleanUrl t) = (scheme, rest)) (plain : ¬"//".toList <+: rest) :
    start t = (scheme, []) ∧ following t = rest := by
  unfold start following
  rw [split, splitAuthority_of_not plain]
  exact ⟨rfl, rfl⟩

/-- Where no scheme is split off the text stays as it is. -/
theorem splitScheme_of_nil {t : Text} (none : (splitScheme t).1 = []) : splitScheme t = ([], t) := by
  unfold splitScheme at none ⊢
  split
  · rename_i c rest
    split
    · rename_i scheme after found
      split
      · rename_i letters
        simp only [found, letters, ↓reduceIte] at none
        have empty : scheme = [] := List.map_eq_nil_iff.mp none
        have colon := eq_append_of_splitFirst found
        rw [empty] at colon
        cases colon
        cases letters
      · rfl
    · rfl
  · rfl

/-! ## What is written -/

/-- The parts of a URL as they are written, with an authority of its own. -/
def Parts.recoded (p : Parts) (authority : Text) : Parts where
  scheme := p.scheme
  authority := authority
  path := recode p.path
  query := recode p.query
  fragment := recode p.fragment

section Written

variable {p : Parts}

/-- What is written after an authority has neither controls nor spaces. -/
theorem Parts.visible_recoded (p : Parts) (authority : Text) :
    ∀ c ∈ rootedPath (p.recoded authority).path ++ (p.recoded authority).ending, 32 < c.toNat := by
  have behindMark {mark c : Char} {t : Text} (visible : 32 < mark.toNat)
      (member : c ∈ behind mark (recode t)) : 32 < c.toNat := by
    unfold behind at member
    split at member
    · cases member
    · rcases List.mem_cons.mp member with rfl | inside
      · exact visible
      · exact visible_recode t c inside
  have rooted {c : Char} (member : c ∈ rootedPath (recode p.path)) : 32 < c.toNat := by
    unfold rootedPath at member
    split at member
    · exact visible_recode _ c member
    · rcases List.mem_cons.mp member with rfl | inside
      · decide
      · exact visible_recode _ c inside
  intro c member
  rcases List.mem_append.mp member with path | ending
  · exact rooted path
  · rcases List.mem_append.mp ending with query | fragment
    · exact behindMark (t := p.query) (by decide : 32 < '?'.toNat) query
    · exact behindMark (t := p.fragment) (by decide : 32 < '#'.toNat) fragment

/-- A URL that is written with an authority names the same resource if its authority is read up to
where it ends, with the same host, and what follows says the same. -/
theorem sameResource_placed (valid : IsScheme p.scheme) {authority : Text}
    (placed : authority ≠ [] ∨ hierarchicalSchemes.contains p.scheme = true ∨
      startsWith "//" (recode p.path) = true) :
    (∃ q, Parts.parse (p.recoded authority).toText = .ok q ∧ q.SameResource p) ↔
      (isReadable ((authority.filter isKept).takeWhile isInner) = true ∧
        hostName ((authority.filter isKept).takeWhile isInner) = hostName p.authority) ∧
      ReadsAs ((authority.filter isKept).dropWhile isInner ++ (rootedPath (recode p.path) ++
          queryAndFragment (percentDecode p.query) (percentDecode p.fragment)))
        (percentDecode p.path) (percentDecode p.query) (percentDecode p.fragment) := by
  have whole : (p.recoded authority).toText = origin p.scheme authority ++ _ :=
    toText_placed (p := p.recoded authority) placed
  have ends := (p.recoded authority).endsAuthority_of_head?
  have alone := start_origin valid authority []
  rw [List.append_nil, List.append_nil] at alone
  rw [whole, exists_sameResource_iff, start_origin_append valid authority ends, alone,
    following_origin valid authority (p.visible_recoded authority) ends]
  exact and_iff_right rfl

/-- What is written without an authority is not taken for one. -/
theorem slashless_bare (plain : startsWith "//" (recode p.path) = false) :
    ¬"//".toList <+: recode p.path ++ (p.recoded []).ending := by
  rw [isPrefix_append_iff, ← startsWith_iff, plain]
  · exact Bool.false_ne_true
  · intro c first
    rcases (p.recoded []).head?_ending c first with rfl | rfl <;> decide

/-- What is read of a URL that is written without an authority: its scheme and the rest, unless it
has no scheme and one is taken from its path. -/
theorem start_bare (valid : IsScheme p.scheme)
    (free : hierarchicalSchemes.contains p.scheme = false)
    (plain : startsWith "//" (recode p.path) = false) :
    ((p.scheme = [] → (splitScheme (recode p.path)).1 = []) →
      start (p.recoded []).toText = (p.scheme, []) ∧
        following (p.recoded []).toText = recode p.path ++ (p.recoded []).ending) ∧
      (p.scheme = [] → (start (p.recoded []).toText).1 = (splitScheme (recode p.path)).1) := by
  let rest := recode p.path ++ (p.recoded []).ending
  have whole : (p.recoded []).toText =
      (if p.scheme.isEmpty then [] else p.scheme ++ [':']) ++ rest :=
    toText_bare (p := p.recoded []) rfl free plain
  have visible : ∀ c ∈ rest, 32 < c.toNat := by
    intro c member
    refine p.visible_recoded [] c ?_
    rcases List.mem_append.mp member with path | ending
    · refine List.mem_append_left _ ?_
      unfold rootedPath
      split
      · exact path
      · exact List.mem_cons_of_mem _ path
    · exact List.mem_append_right _ ending
  have kept : rest.filter isKept = rest :=
    List.filter_eq_self.mpr fun c member => isKept_of_lt (visible c member)
  have marks := (p.recoded []).head?_ending
  by_cases schemeless : p.scheme = []
  · have clean : cleanUrl (p.recoded []).toText = rest := by
      rw [whole, schemeless, List.isEmpty_nil, if_pos rfl, List.nil_append,
        cleanUrl_of_head fun c first => visible c (List.mem_of_mem_head? first), kept]
    refine ⟨fun again => start_of_splitScheme ?_ (slashless_bare plain), fun _ => ?_⟩
    · have none := again schemeless
      rw [clean, schemeless, splitScheme_append_ending _ marks, splitScheme_of_nil none]
    · unfold start
      rw [clean, splitScheme_append_ending _ marks]
  · refine ⟨fun _ => start_of_splitScheme ?_ (slashless_bare plain), fun empty => ?_⟩
    · rw [whole, List.isEmpty_eq_false_iff.mpr schemeless, if_neg Bool.false_ne_true,
        List.append_assoc, List.singleton_append, cleanUrl_scheme valid schemeless, kept,
        splitScheme_append valid schemeless]
    · exact absurd empty schemeless

/-- A URL that is written without an authority names the same resource if no scheme is taken from
its path, unless it has one, and what is written says the same. -/
theorem sameResource_bare (valid : IsScheme p.scheme) (hostless : p.authority = [])
    (free : hierarchicalSchemes.contains p.scheme = false)
    (plain : startsWith "//" (recode p.path) = false) :
    (∃ q, Parts.parse (p.recoded []).toText = .ok q ∧ q.SameResource p) ↔
      (p.scheme = [] → (splitScheme (recode p.path)).1 = []) ∧
      ReadsAs (recode p.path ++
          queryAndFragment (percentDecode p.query) (percentDecode p.fragment))
        (percentDecode p.path) (percentDecode p.query) (percentDecode p.fragment) := by
  obtain ⟨starts, taken⟩ := start_bare valid free plain
  have host : isReadable [] = true ∧ hostName [] = hostName p.authority := by
    rw [hostless]
    exact ⟨by decide, rfl⟩
  rw [exists_sameResource_iff]
  by_cases again : p.scheme = [] → (splitScheme (recode p.path)).1 = []
  · obtain ⟨started, follows⟩ := starts again
    rw [started, follows]
    exact (and_iff_right rfl).trans ((and_iff_right host).trans (and_iff_right again).symm)
  · refine iff_of_false ?_ fun both => again both.1
    rintro ⟨scheme, -⟩
    exact again fun schemeless => (taken schemeless).symm.trans (scheme.trans schemeless)

end Written

/-! ## Which URLs go on naming their resource -/

/-- Whether no mark that ends a part stands in it escaped, and no escape stands in a part
escaped. -/
def Parts.KeepsParts (p : Parts) : Prop :=
  ('?' ∉ percentDecode p.path ∧ '#' ∉ percentDecode p.path ∧ '#' ∉ percentDecode p.query) ∧
    (hasEscape (percentDecode p.path) = false ∧ hasEscape (percentDecode p.query) = false ∧
      hasEscape (percentDecode p.fragment) = false)

/-- Whether an authority, its escapes decoded and encoded, is read with the same host up to where it
ends, which leaves nothing of it or marks of parts that are empty. -/
def Parts.KeepsAuthority (p : Parts) : Prop :=
  ∀ authority, encodeAuthority (percentDecode p.authority) = .ok authority →
    (isReadable ((authority.filter isKept).takeWhile isInner) = true ∧
      hostName ((authority.filter isKept).takeWhile isInner) = hostName p.authority) ∧
    IsEmptyMark (percentDecode p.path) (percentDecode p.query) (percentDecode p.fragment)
      ((authority.filter isKept).dropWhile isInner)

/-- Whether a URL without an authority is not taken for another: without a scheme if none is taken
from its path, its escapes decoded and written again; with a scheme that wants an authority if the
path is one that may follow it. -/
def Parts.KeepsStart (p : Parts) : Prop :=
  (p.scheme = [] → (splitScheme (recode p.path)).1 = []) ∧
    (hierarchicalSchemes.contains p.scheme = true → ∀ c ∈ (percentDecode p.path).head?, c = '/')

/-- Whether a URL goes on naming its resource when it is encoded. -/
def Parts.KeepsResource (p : Parts) : Prop :=
  (if p.authority = [] then p.KeepsStart else p.KeepsAuthority) ∧ p.KeepsParts

section Keeps

variable {p : Parts}

/-- Slashes stand for themselves and are no percent signs. -/
theorem slashes_kept {t : Text} (slashes : ∀ c ∈ t, c = '/') :
    ∀ c ∈ t, standsForItself safeCharacters c = true ∧ c ≠ '%' := by
  obtain ⟨-, -, plain, itself⟩ := mark_plain (c := '/') rfl
  intro c member
  rw [slashes c member]
  exact ⟨itself, plain⟩

/-- A path that is written after an authority is given a slash unless it starts with one. -/
theorem rootedPath_recode (t : Text) :
    ((∀ c ∈ (percentDecode t).head?, c = '/') → rootedPath (recode t) = recode t) ∧
      ((¬∀ c ∈ (percentDecode t).head?, c = '/') → rootedPath (recode t) = '/' :: recode t) := by
  have slash : startsWith "/" (recode t) = true ↔ "/".toList <+: percentDecode t := by
    rw [startsWith_iff]
    exact isPrefix_percentEncode (slashes_kept (by simp)) _
  have empty : (recode t).isEmpty = true ↔ percentDecode t = [] := by
    rw [List.isEmpty_iff]
    exact written_eq_nil_iff
  have same : ((recode t).isEmpty || startsWith "/" (recode t)) = true ↔
      ∀ c ∈ (percentDecode t).head?, c = '/' := by
    rw [Bool.or_eq_true, slash, empty]
    cases percentDecode t with
    | nil => simp
    | cons c rest => simp [eq_comm]
  exact ⟨fun starts => if_pos (same.mpr starts), fun other => if_neg (other ∘ same.mp)⟩

/-- What is written after what was left of an authority says the same exactly if the parts are kept
and what was left changes nothing. -/
theorem Parts.readsAs_iff (p : Parts) (left : Text)
    (opens : ∀ c ∈ left.head?, endsAuthority c = true) :
    ReadsAs (left ++ (recode p.path ++
          queryAndFragment (percentDecode p.query) (percentDecode p.fragment)))
        (percentDecode p.path) (percentDecode p.query) (percentDecode p.fragment) ↔
      p.KeepsParts ∧
        IsEmptyMark (percentDecode p.path) (percentDecode p.query) (percentDecode p.fragment) left :=
  (readsAs_written_iff opens).trans and_assoc.symm

/-- A slash that is left of an authority does not change nothing. -/
theorem not_isEmptyMark_slash (path query fragment : Text) :
    ¬IsEmptyMark path query fragment ['/'] := by
  simp [IsEmptyMark]

/-- A path that is written with two slashes at its start begins with one. -/
theorem head?_of_slashes {t : Text} (slashes : startsWith "//" (recode t) = true) :
    ∀ c ∈ (percentDecode t).head?, c = '/' := by
  have begins : "//".toList <+: percentDecode t :=
    (isPrefix_percentEncode (slashes_kept (by simp)) _).mp (startsWith_iff.mp slashes)
  obtain ⟨rest, path⟩ := begins
  rw [← path]
  simp

/-- A URL without an authority names the same resource when it is written exactly if its start and
its parts are kept. -/
theorem sameResource_hostless (valid : IsScheme p.scheme) (hostless : p.authority = []) :
    (∃ q, Parts.parse (p.recoded []).toText = .ok q ∧ q.SameResource p) ↔
      p.KeepsStart ∧ p.KeepsParts := by
  have unmarked := p.readsAs_iff [] (by simp)
  have free : hierarchicalSchemes.contains ([] : Text) = false := by decide
  by_cases placed : hierarchicalSchemes.contains p.scheme = true ∨
      startsWith "//" (recode p.path) = true
  · have host : isReadable [] = true ∧ hostName [] = hostName p.authority := by
      rw [hostless]
      exact ⟨by decide, rfl⟩
    rw [sameResource_placed valid (.inr placed)]
    refine (and_iff_right host).trans ?_
    by_cases slash : ∀ c ∈ (percentDecode p.path).head?, c = '/'
    · have start : p.KeepsStart := by
        refine ⟨fun schemeless => ?_, fun _ => slash⟩
        have slashes : startsWith "//" (recode p.path) = true := by
          refine placed.resolve_left ?_
          rw [schemeless, free]
          exact Bool.false_ne_true
        obtain ⟨rest, path⟩ := startsWith_iff.mp slashes
        rw [← path, splitScheme_of_head rfl]
      rw [(rootedPath_recode p.path).1 slash]
      exact unmarked.trans ((and_iff_left (.inl rfl)).trans (and_iff_right start).symm)
    · -- the slash that is written before the path is read as a part of it
      have rooted := p.readsAs_iff ['/'] (by simp [endsAuthority])
      rw [(rootedPath_recode p.path).2 slash]
      refine iff_of_false (fun read => ?_) fun kept => ?_
      · exact not_isEmptyMark_slash _ _ _ (rooted.mp read).2
      · rcases placed with hierarchical | slashes
        · exact slash (kept.1.2 hierarchical)
        · exact slash (head?_of_slashes slashes)
  · rw [not_or, Bool.not_eq_true, Bool.not_eq_true] at placed
    have start : p.KeepsStart ↔ (p.scheme = [] → (splitScheme (recode p.path)).1 = []) := by
      refine and_iff_left fun hierarchical => ?_
      rw [placed.1] at hierarchical
      cases hierarchical
    rw [sameResource_bare valid hostless placed.1 placed.2, start]
    exact and_congr_right fun _ => unmarked.trans (and_iff_left (.inl rfl))

/-- A URL with an authority names the same resource when it is written exactly if its authority and
its parts are kept. -/
theorem sameResource_hosted (valid : IsScheme p.scheme) {authority : Text} (present : authority ≠ [])
    (rooted : ∀ c ∈ p.path.head?, c = '/') :
    (∃ q, Parts.parse (p.recoded authority).toText = .ok q ∧ q.SameResource p) ↔
      ((isReadable ((authority.filter isKept).takeWhile isInner) = true ∧
          hostName ((authority.filter isKept).takeWhile isInner) = hostName p.authority) ∧
        IsEmptyMark (percentDecode p.path) (percentDecode p.query) (percentDecode p.fragment)
          ((authority.filter isKept).dropWhile isInner)) ∧ p.KeepsParts := by
  have opens : ∀ c ∈ ((authority.filter isKept).dropWhile isInner).head?,
      endsAuthority c = true := by
    intro c first
    have stops := List.head?_dropWhile_not isInner (authority.filter isKept)
    rw [Option.mem_def.mp first] at stops
    simpa [isInner] using stops
  rw [sameResource_placed valid (.inl present),
    (rootedPath_recode p.path).1 (head?_percentDecode rooted), p.readsAs_iff _ opens]
  exact (and_congr_right fun _ => and_comm).trans and_assoc.symm

/-- A URL goes on naming its resource when it is encoded exactly if its parts do. -/
theorem sameResource_encodeParts_iff {url encoded : Text}
    (parsed : Parts.parse (decodeEntities url) = .ok p) (done : encodeParts url = .ok encoded) :
    (∃ q, Parts.parse encoded = .ok q ∧ q.SameResource p) ↔ p.KeepsResource := by
  obtain ⟨authority, given, rfl⟩ := encodeParts_eq_ok parsed done
  have valid : IsScheme p.scheme := by
    rw [(parse_eq_ok parsed).1]
    exact isScheme_splitScheme _
  change (∃ q, Parts.parse (p.recoded authority).toText = .ok q ∧ q.SameResource p) ↔ _
  unfold Parts.KeepsResource
  rcases given with ⟨hostless, rfl⟩ | ⟨present, encodes⟩
  · rw [if_pos hostless]
    exact sameResource_hostless valid hostless
  · have nonempty := encodeAuthority_ne_nil (percentDecodeFrom_ne_nil (.inr present)) encodes
    rw [if_neg present, sameResource_hosted valid nonempty (path_after_authority parsed present)]
    refine and_congr_left fun _ => ⟨fun kept other same => ?_, fun kept => kept authority encodes⟩
    cases encodes.symm.trans same
    exact kept

/-- An ASCII authority without percent escapes is kept. -/
theorem Parts.keepsAuthority_of_plain {t : Text} (parsed : Parts.parse t = .ok p)
    (ascii : isAscii p.authority = true) (plain : '%' ∉ p.authority) : p.KeepsAuthority := by
  have inner := inner_of_parse parsed
  have kept : p.authority.filter isKept = p.authority :=
    List.filter_eq_self.mpr fun c member => (inner c member).2
  have whole : p.authority.takeWhile isInner = p.authority :=
    List.takeWhile_eq_self_iff.mpr fun c member => (inner c member).1
  have left : p.authority.dropWhile isInner = [] :=
    List.dropWhile_eq_nil_iff.mpr fun c member => (inner c member).1
  intro authority same
  rw [percentDecode_of_not_mem plain, encodeAuthority_of_ascii ascii] at same
  rw [← Except.ok.inj same, kept, whole, left]
  exact ⟨⟨(start_of_parse parsed).2, rfl⟩, .inl rfl⟩

end Keeps

/-- **An encoded URL names the same resource exactly if its parts are kept**: the authority, its
escapes decoded and its host in ASCII, is still read with the same host, or the start of a URL
without one is not taken for another; no mark that ends a part stands in it escaped, and no escape
is escaped itself. -/
theorem encode_keeps_resource_iff {url href : Text} (done : encode? url = .ok href) :
    ∃ p, Parts.parse (decodeEntities url) = .ok p ∧
      ((∃ q, Parts.parse (decodeEntities href) = .ok q ∧ q.SameResource p) ↔
        p.KeepsResource) := by
  obtain ⟨encoded, parts, plain⟩ := exists_encodeParts done
  obtain ⟨p, parsed⟩ := exists_parse_of_encodeParts parts
  rw [plain]
  exact ⟨p, parsed, sameResource_encodeParts_iff parsed parts⟩

/-- A number sign that is escaped in a path opens a fragment when the path is encoded. -/
theorem encode_opens_fragment :
    let url : Text := "/a%23b"
    let href : Text := "/a#b"
    encode? url = .ok href ∧ ∃ p, Parts.parse (decodeEntities url) = .ok p ∧
      ¬∃ q, Parts.parse (decodeEntities href) = .ok q ∧ q.SameResource p := by
  intro url href
  have parsed : Parts.parse (decodeEntities url) = .ok { path := "/a%23b" } := by decide +kernel
  have opened : Parts.parse (decodeEntities href) = .ok { path := "/a", fragment := "b" } := by
    decide +kernel
  refine ⟨by decide +kernel, _, parsed, ?_⟩
  rintro ⟨q, read, -, -, path, -⟩
  cases opened.symm.trans read
  exact absurd path (by decide +kernel)

/-- A page whose path and fragment have to be encoded and whose query is escaped in part. -/
theorem sameResource_of_mixed :
    let url : Text := "http://bar.com/café?x=a%62 c#ä"
    let href : Text := "http://bar.com/caf%C3%A9?x=ab%20c#%C3%A4"
    encode? url = .ok href ∧ ∃ p, Parts.parse (decodeEntities url) = .ok p ∧
      ∃ q, Parts.parse (decodeEntities href) = .ok q ∧ q.SameResource p := by
  intro url href
  have done : encode? url = .ok href := by decide +kernel
  have parts : Parts.parse (decodeEntities url) = .ok {
      scheme := "http"
      authority := "bar.com"
      path := "/café"
      query := "x=a%62 c"
      fragment := "ä" } := by
    decide +kernel
  obtain ⟨p, parsed, same⟩ := encode_keeps_resource_iff done
  refine ⟨done, p, parsed, same.mpr ?_⟩
  cases parts.symm.trans parsed
  refine ⟨?_, by unfold Parts.KeepsParts; decide +kernel⟩
  rw [if_neg (by simp)]
  exact Parts.keepsAuthority_of_plain parts (by decide) (by decide)

end MarkdownSite.Url
