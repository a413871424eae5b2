import MarkdownSite.Proofs.Url.Reread
import MarkdownSite.Proofs.Url.Resource

/-!
# URLs that are encoded twice

A URL that is encoded again is taken apart where it was put together, if its authority is read up to
the place where it was written, and each part is written as it is read. So it stays as it is exactly
if its authority does, the escapes that stand in its decoded parts are spelled as they would be
written, and no mark among them opens an empty part. A URL that cannot be encoded stays as it is.
-/

namespace MarkdownSite.Url

open Text

/-! ## A slash before a text -/

/-- A character that is no mark belongs to the first part. -/
theorem splitAt_cons {c d : Char} (other : d ≠ c) (t : Text) :
    splitAt c (d :: t) = (d :: (splitAt c t).1, (splitAt c t).2) := by
  by_cases present : c ∈ t
  · obtain ⟨before, after, rfl, first⟩ := List.eq_append_cons_of_mem present
    have outside : c ∉ d :: before := by simp [first, Ne.symm other]
    rw [← List.cons_append, splitAt_append outside, splitAt_append first]
  · have outside : c ∉ d :: t := by simp [present, Ne.symm other]
    rw [splitAt_of_not_mem outside, splitAt_of_not_mem present]

/-- A slash before a text belongs to the path. -/
theorem splitTail_slash (t : Text) :
    splitTail ('/' :: t) = ('/' :: (splitTail t).1, (splitTail t).2) := by
  unfold splitTail
  rw [splitAt_cons (by decide)]
  dsimp only
  rw [splitAt_cons (by decide)]

/-- A slash is written as it is. -/
theorem written_slash (t : Text) : written ('/' :: t) = '/' :: written t :=
  written_cons '/' t

/-- A slash before a path is decoded and written again as it is. -/
theorem recode_slash (t : Text) : recode ('/' :: t) = '/' :: recode t := by
  unfold recode
  rw [percentDecode_cons (by decide) (by decide)]
  exact written_slash (percentDecode t)

/-- A slash before a text changes nothing about whether it stays as it is. -/
theorem written_rejoin_slash (t : Text) :
    written (reread (rejoin ('/' :: t))) = written ('/' :: t) ↔
      written (reread (rejoin t)) = written t := by
  have joined : rejoin ('/' :: t) = '/' :: rejoin t := by
    unfold rejoin
    rw [splitTail_slash]
    rfl
  rw [joined, reread_cons (startsEscape_of_ne (by decide) _), written_slash, written_slash,
    List.cons.injEq]
  exact and_iff_right rfl

/-- Two slashes at the start of what is written start the path that is read, and start it again when
it is decoded and written. -/
theorem startsWith_recode_splitTail {t : Text} (slashes : startsWith "//" t = true) :
    startsWith "//" (recode (splitTail t).1) = true := by
  obtain ⟨rest, rfl⟩ := startsWith_iff.mp slashes
  change startsWith "//" (recode (splitTail ('/' :: '/' :: rest)).1) = true
  rw [splitTail_slash, splitTail_slash, recode_slash, recode_slash]
  exact startsWith_iff.mpr ⟨_, rfl⟩

/-! ## Taken apart again -/

/-- The authority with which a URL is written. -/
def Parts.writtenAuthority (p : Parts) : Except UrlError Text :=
  if p.authority.isEmpty then .ok [] else encodeAuthority (percentDecode p.authority)

/-- Path, query and fragment of a URL, their escapes decoded, in one text. -/
def Parts.decodedTail (p : Parts) : Text :=
  percentDecode p.path ++
    (behind '?' (percentDecode p.query) ++ behind '#' (percentDecode p.fragment))

/-- Path, query and fragment are written one after the other. -/
theorem Parts.written_decodedTail (p : Parts) (authority : Text) :
    written p.decodedTail = recode p.path ++ (p.recoded authority).ending := by
  rw [decodedTail, written_append, written_append, written_behind rfl, written_behind rfl]
  rfl

/-- A URL that can be taken apart is encoded part by part. -/
theorem encodeParts_of_parse {url : Text} {p : Parts}
    (parsed : Parts.parse (decodeEntities url) = .ok p) :
    encodeParts url = p.writtenAuthority.map fun authority => (p.recoded authority).toText := by
  unfold encodeParts Parts.writtenAuthority
  simp only [parsed, bind, Except.bind, pure, Except.pure]
  cases p.authority.isEmpty with
  | true => rfl
  | false =>
    simp only [Bool.false_eq_true, ↓reduceIte]
    cases encodeAuthority (percentDecode p.authority) <;> rfl

/-- Whether a URL is read up to the same places as it was written: its authority, which is then not
written longer; without one its scheme, or that it has none. -/
def Parts.StartsAgain (p : Parts) (authority : Text) : Prop :=
  if authority = [] then p.scheme = [] → (splitScheme (recode p.path)).1 = []
  else (∀ c ∈ authority, isInner c = true ∧ isKept c = true) ∧
    ∀ again, encodeAuthority (percentDecode authority) = .ok again →
      again.length ≤ authority.length

/-- The authority with which a URL is written a second time. -/
def authorityAgain (authority : Text) : Except UrlError Text :=
  Parts.writtenAuthority { authority }

/-- Whether a URL that is written stays as it is, unless it cannot be encoded again: its authority
is written as it was, the escapes of its decoded parts are spelled as they would be written, and no
mark among them opens an empty part. -/
def Parts.Stays (p : Parts) (authority : Text) : Prop :=
  isReadable authority = true → ∀ again, authorityAgain authority = .ok again →
    again = authority ∧ Spelled p.decodedTail ∧ rejoin p.decodedTail = p.decodedTail

/-- The parts that are read of a scheme, an authority and a text that was written after them. -/
def rereadParts (scheme authority t : Text) : Parts where
  scheme := scheme
  authority := authority
  path := (splitTail (written t)).1
  query := (splitTail (written t)).2.1
  fragment := (splitTail (written t)).2.2

/-- What is written of them after the authority is what the text is put together again and read
again. -/
theorem rereadParts_tail (scheme authority again t : Text) :
    recode (rereadParts scheme authority t).path ++
        ((rereadParts scheme authority t).recoded again).ending =
      written (reread (rejoin t)) :=
  recode_percentEncode (by decide) (by decide) rfl rfl t

/-- An authority is written a second time as nothing only if there is none. -/
theorem authorityAgain_eq_nil_iff {authority again : Text}
    (given : authorityAgain authority = .ok again) : again = [] ↔ authority = [] := by
  unfold authorityAgain Parts.writtenAuthority at given
  by_cases empty : authority = []
  · subst empty
    exact iff_of_true (Except.ok.inj given).symm rfl
  · rw [List.isEmpty_eq_false_iff.mpr empty] at given
    exact iff_of_false (encodeAuthority_ne_nil (percentDecodeFrom_ne_nil (.inr empty)) given) empty

section Again

variable {p : Parts} {authority href : Text}

/-- What a URL is encoded as that starts as it was written. -/
theorem encodeParts_of_start {scheme t encoded : Text}
    (started : start (decodeEntities href) = (scheme, authority))
    (follows : following (decodeEntities href) = written t) :
    (∀ twice, encodeParts href = .ok twice → twice = encoded) ↔
      (isReadable authority = true → ∀ again, authorityAgain authority = .ok again →
        ((rereadParts scheme authority t).recoded again).toText = encoded) := by
  rcases parse_cases (decodeEntities href) with ⟨readable, -⟩ | ⟨unreadable, e, refused⟩
  · have parsed : Parts.parse (decodeEntities href) = .ok (rereadParts scheme authority t) := by
      rw [started] at readable
      rw [parse_eq_ok_iff, started, follows]
      exact ⟨readable, rfl⟩
    rw [started] at readable
    rw [encodeParts_of_parse parsed]
    change (∀ twice, (authorityAgain authority).map _ = .ok twice → _) ↔ _
    cases authorityAgain authority with
    | error e => exact iff_of_true nofun fun _ => nofun
    | ok again =>
      constructor
      · rintro only - _ ⟨⟩
        exact only _ rfl
      · rintro only _ ⟨⟩
        exact only readable again rfl
  · rw [started] at unreadable
    refine iff_of_true (fun twice done => ?_) fun readable => ?_
    · obtain ⟨p, parsed⟩ := exists_parse_of_encodeParts done
      cases refused.symm.trans parsed
    · cases unreadable.symm.trans readable

/-- What follows an authority is written of one text: of path, query and fragment, with a slash
before the path unless it starts with one. -/
theorem Parts.exists_written (p : Parts) (authority : Text) :
    ∃ t, written t = rootedPath (recode p.path) ++ (p.recoded authority).ending ∧
      (written (reread (rejoin t)) = written t ↔
        written (reread (rejoin p.decodedTail)) = written p.decodedTail) := by
  by_cases slash : ∀ c ∈ (percentDecode p.path).head?, c = '/'
  · rw [(rootedPath_recode p.path).1 slash]
    exact ⟨p.decodedTail, p.written_decodedTail authority, Iff.rfl⟩
  · rw [(rootedPath_recode p.path).2 slash]
    refine ⟨'/' :: p.decodedTail, ?_, written_rejoin_slash p.decodedTail⟩
    rw [written_slash, p.written_decodedTail authority]
    rfl

/-- What is written after a scheme tells two URLs apart. -/
theorem origin_append_inj {scheme again first second : Text} :
    origin scheme again ++ first = origin scheme authority ++ second ↔
      again ++ first = authority ++ second := by
  have whole (name rest : Text) : origin scheme name ++ rest =
      ((if scheme.isEmpty then [] else scheme ++ [':']) ++ "//") ++ (name ++ rest) := by
    simp [origin]
  rw [whole, whole, List.append_right_inj]

/-- What is written after two authorities tells them apart, where the first is not longer and what
follows it ends an authority. -/
theorem append_eq_append_iff_of_inner {again first second : Text}
    (inner : ∀ c ∈ authority, isInner c = true) (shorter : again.length ≤ authority.length)
    (ends : ∀ c ∈ first.head?, endsAuthority c = true) :
    again ++ first = authority ++ second ↔ again = authority ∧ first = second := by
  constructor
  · intro same
    rcases List.append_eq_append_iff.mp same with ⟨left, rfl, rfl⟩ | ⟨left, rfl, rfl⟩
    · cases left with
      | nil => exact ⟨(List.append_nil again).symm, rfl⟩
      | cons c left =>
        have stops := ends c rfl
        have goes := inner c (List.mem_append_right again List.mem_cons_self)
        rw [isInner, stops] at goes
        cases goes
    · rw [List.length_append] at shorter
      obtain rfl : left = [] := List.eq_nil_of_length_eq_zero (by omega)
      exact ⟨List.append_nil authority, rfl⟩
  · rintro ⟨rfl, rfl⟩
    rfl

/-- A URL that is written with an authority stays as it is exactly if its authority does and what
follows. -/
theorem encodeParts_placed (valid : IsScheme p.scheme) (placed : authority ≠ [] ∨
      hierarchicalSchemes.contains p.scheme = true ∨ startsWith "//" (recode p.path) = true)
    (again : p.StartsAgain authority)
    (plain : decodeEntities href = (p.recoded authority).toText) :
    (∀ twice, encodeParts href = .ok twice → twice = (p.recoded authority).toText) ↔
      p.Stays authority := by
  obtain ⟨inner, shorter⟩ : (∀ c ∈ authority, isInner c = true ∧ isKept c = true) ∧
      ∀ again, authorityAgain authority = .ok again → again.length ≤ authority.length := by
    unfold Parts.StartsAgain at again
    unfold authorityAgain Parts.writtenAuthority
    split at again
    · rename_i empty
      subst empty
      refine ⟨by simp, ?_⟩
      rintro _ ⟨⟩
      exact Nat.le_refl 0
    · rename_i present
      rw [List.isEmpty_eq_false_iff.mpr present]
      exact again
  obtain ⟨t, tail, same⟩ := p.exists_written authority
  have whole : (p.recoded authority).toText = origin p.scheme authority ++ written t := by
    rw [tail]
    exact toText_placed (p := p.recoded authority) placed
  have ends : ∀ c ∈ (written t).head?, endsAuthority c = true := by
    rw [tail]
    exact (p.recoded authority).endsAuthority_of_head?
  have visible : ∀ c ∈ written t, 32 < c.toNat := by
    rw [tail]
    exact p.visible_recoded authority
  have started : start (decodeEntities href) = (p.scheme, authority) := by
    rw [plain, whole, start_origin_append valid authority ends, start_origin_of_read valid inner]
  have follows : following (decodeEntities href) = written t := by
    have kept : authority.filter isKept = authority :=
      List.filter_eq_self.mpr fun c member => (inner c member).2
    have left : authority.dropWhile isInner = [] :=
      List.dropWhile_eq_nil_iff.mpr fun c member => (inner c member).1
    rw [plain, whole, following_origin valid authority visible ends, kept, left, List.nil_append]
  rw [encodeParts_of_start started follows]
  let q := rereadParts p.scheme authority t
  have rooted : rootedPath (recode q.path) = recode q.path :=
    (rootedPath_recode q.path).1 (head?_percentDecode (head?_splitAt_marks ends))
  have slashes (first : startsWith "//" (recode p.path) = true) :
      startsWith "//" (recode q.path) = true := by
    refine startsWith_recode_splitTail ?_
    rw [tail, (rootedPath_recode p.path).1 (head?_of_slashes first)]
    exact startsWith_iff.mpr ((startsWith_iff.mp first).trans (List.prefix_append _ _))
  refine forall_congr' fun _ => forall_congr' fun second => forall_congr' fun given => ?_
  have placedAgain : second ≠ [] ∨ hierarchicalSchemes.contains p.scheme = true ∨
      startsWith "//" (recode q.path) = true :=
    placed.imp (mt (authorityAgain_eq_nil_iff given).mp) (.imp_right slashes)
  have twice : (q.recoded second).toText =
      origin p.scheme second ++ written (reread (rejoin t)) := by
    rw [← rereadParts_tail p.scheme authority second t, ← rooted]
    exact toText_placed (p := q.recoded second) placedAgain
  have endsAgain : ∀ c ∈ (written (reread (rejoin t))).head?, endsAuthority c = true := by
    rw [← rereadParts_tail p.scheme authority second t, ← rooted]
    exact (q.recoded second).endsAuthority_of_head?
  rw [twice, whole, origin_append_inj,
    append_eq_append_iff_of_inner (fun c member => (inner c member).1) (shorter second given)
      endsAgain, same, written_rejoin_iff]

/-- A URL that is written without an authority stays as it is exactly if what follows its scheme
does. -/
theorem encodeParts_bare (valid : IsScheme p.scheme)
    (free : hierarchicalSchemes.contains p.scheme = false)
    (slashless : startsWith "//" (recode p.path) = false) (again : p.StartsAgain [])
    (plain : decodeEntities href = (p.recoded []).toText) :
    (∀ twice, encodeParts href = .ok twice → twice = (p.recoded []).toText) ↔ p.Stays [] := by
  have fresh : p.scheme = [] → (splitScheme (recode p.path)).1 = [] := again
  obtain ⟨started, follows⟩ := (start_bare valid free slashless).1 fresh
  have whole : (p.recoded []).toText =
      (if p.scheme.isEmpty then [] else p.scheme ++ [':']) ++ written p.decodedTail := by
    rw [p.written_decodedTail []]
    exact toText_bare (p := p.recoded []) rfl free slashless
  have unplaced := slashless_bare slashless
  rw [← plain] at started follows
  rw [← p.written_decodedTail []] at follows unplaced
  rw [encodeParts_of_start started follows]
  refine forall_congr' fun _ => forall_congr' fun second => forall_congr' fun given => ?_
  obtain rfl : second = [] := (authorityAgain_eq_nil_iff given).mpr rfl
  rw [← written_rejoin_iff, eq_self_iff_true, true_and]
  let q := rereadParts p.scheme [] p.decodedTail
  have tail : recode q.path ++ (q.recoded []).ending = written (reread (rejoin p.decodedTail)) :=
    rereadParts_tail p.scheme [] [] p.decodedTail
  cases slashes : startsWith "//" (recode q.path) with
  | false =>
    have twice : (q.recoded []).toText =
        (if p.scheme.isEmpty then [] else p.scheme ++ [':']) ++
          written (reread (rejoin p.decodedTail)) := by
      rw [← tail]
      exact toText_bare (p := q.recoded []) rfl free slashes
    rw [twice, whole, List.append_right_inj]
  | true =>
    -- an authority would be written before the path, which started with one slash at most
    refine iff_of_false (fun same => unplaced ?_) fun same => unplaced ?_
    · have twice : (q.recoded []).toText = origin p.scheme [] ++ _ :=
        toText_placed (p := q.recoded []) (.inr (.inr slashes))
      rw [twice, whole, origin, List.append_assoc, List.append_right_inj, List.append_assoc] at same
      exact ⟨_, same⟩
    · rw [← same, ← tail]
      exact (startsWith_iff.mp slashes).trans (List.prefix_append _ _)

/-- A URL that is read up to the same places as it was written stays as it is exactly if its parts
do. -/
theorem encodeParts_again_iff {url : Text} (parsed : Parts.parse (decodeEntities url) = .ok p)
    (again : p.StartsAgain authority)
    (plain : decodeEntities href = (p.recoded authority).toText) :
    (∀ twice, encodeParts href = .ok twice → twice = (p.recoded authority).toText) ↔
      p.Stays authority := by
  have valid : IsScheme p.scheme := by
    rw [(parse_eq_ok parsed).1]
    exact isScheme_splitScheme _
  by_cases placed : authority ≠ [] ∨ hierarchicalSchemes.contains p.scheme = true ∨
      startsWith "//" (recode p.path) = true
  · exact encodeParts_placed valid placed again plain
  · simp only [not_or, ne_eq, not_not, Bool.not_eq_true] at placed
    obtain ⟨rfl, free, slashless⟩ := placed
    exact encodeParts_bare valid free slashless again plain

end Again

/-! ## Which URLs stay as they are -/

/-- A text without escapes is spelled as it would be written. -/
theorem spelled_of_hasEscape {t : Text} (plain : hasEscape t = false) : Spelled t :=
  spelled_of_written_eq plain rfl

/-- A URL that was encoded stays as it is exactly if it cannot be encoded again or is encoded as it
was. -/
theorem encode_escapeAttribute_iff (encoded : Text) :
    encode (escapeAttribute encoded) = escapeAttribute encoded ↔
      ∀ twice, encodeParts (escapeAttribute encoded) = .ok twice → twice = encoded := by
  unfold encode
  rw [encode?_eq (checkNumbers_escapeAttribute encoded)]
  cases encodeParts (escapeAttribute encoded) with
  | error e => exact iff_of_true rfl nofun
  | ok twice =>
    constructor
    · rintro same _ ⟨⟩
      have read := congrArg decodeEntities same
      exact (decodeEntities_escapeAttribute twice).symm.trans
        (read.trans (decodeEntities_escapeAttribute encoded))
    · intro only
      exact congrArg escapeAttribute (only twice rfl)

/-- An ASCII authority without percent escapes is written as it is, and its URL is read up to the
same places. -/
theorem Parts.startsAgain_of_plain {t : Text} {p : Parts} (parsed : Parts.parse t = .ok p)
    (present : p.authority ≠ []) (ascii : isAscii p.authority = true) (plain : '%' ∉ p.authority) :
    p.writtenAuthority = .ok p.authority ∧ p.StartsAgain p.authority := by
  have own : encodeAuthority (percentDecode p.authority) = .ok p.authority := by
    rw [percentDecode_of_not_mem plain, encodeAuthority_of_ascii ascii]
  unfold writtenAuthority StartsAgain
  rw [List.isEmpty_eq_false_iff.mpr present, if_neg present, own]
  refine ⟨rfl, inner_of_parse parsed, ?_⟩
  rintro _ ⟨⟩
  exact Nat.le_refl _

/-- **An encoded URL is encoded as it is**, where it is read up to the same places as it was
written, exactly if its authority is written as it was, the escapes that stand in its decoded parts
are spelled as they would be written and no mark among them opens an empty part. A URL that cannot
be encoded stays as it is. -/
theorem encode_encode_iff (url : Text) :
    (∀ e, encode? url = .error e → encode (encode url) = encode url) ∧
      ∀ {href}, encode? url = .ok href →
        ∃ p authority, Parts.parse (decodeEntities url) = .ok p ∧
          p.writtenAuthority = .ok authority ∧
          (p.StartsAgain authority → (encode (encode url) = encode url ↔ p.Stays authority)) := by
  constructor
  · intro e refused
    have raw : encode url = url := by
      unfold encode
      rw [refused]
    rw [raw, raw]
  · intro href done
    obtain ⟨encoded, parts, -⟩ := exists_encodeParts done
    obtain ⟨p, parsed⟩ := exists_parse_of_encodeParts parts
    have first := encodeParts_of_parse parsed
    rw [parts] at first
    cases given : p.writtenAuthority with
    | error e =>
      rw [given] at first
      cases first
    | ok authority =>
      rw [given] at first
      obtain rfl : encoded = (p.recoded authority).toText := Except.ok.inj first
      have once : encode url = escapeAttribute (p.recoded authority).toText := by
        rcases encode?_cases url with ⟨_, -, same, -, whole⟩ | ⟨e, refused, -⟩
        · cases parts.symm.trans same
          exact whole
        · cases done.symm.trans refused
      refine ⟨p, authority, parsed, given, fun again => ?_⟩
      rw [once, encode_escapeAttribute_iff]
      exact encodeParts_again_iff parsed again (decodeEntities_escapeAttribute _)

/-- A percent sign that is escaped twice loses an escape each time. -/
theorem encode_encode_escaped_percent :
    let url : Text := "/%2525"
    encode url = "/%25" ∧ encode (encode url) ≠ encode url := by
  decide +kernel

/-- A page with escapes that are spelled as they would be written and a percent sign that starts
none. -/
theorem encode_encode_of_escapes :
    let url : Text := "http://bar.com/caf%25C3%25A9?x=%25#b%20c"
    let href : Text := "http://bar.com/caf%C3%A9?x=%#b%20c"
    encode? url = .ok href ∧ encode (encode url) = encode url := by
  intro url href
  let parts : Parts := {
    scheme := "http"
    authority := "bar.com"
    path := "/caf%25C3%25A9"
    query := "x=%25"
    fragment := "b%20c" }
  have done : encode? url = .ok href := by decide +kernel
  have read : Parts.parse (decodeEntities url) = .ok parts := by decide +kernel
  have spelled : Spelled ("/caf" ++ (escapes 'é' ++ "?x=%#b c")) := by
    have query : Spelled "?x=%#b c" := spelled_of_hasEscape (by decide)
    exact .char rfl (.char rfl (.char rfl (.char rfl (.escapes rfl query))))
  have decoded : parts.decodedTail = "/caf" ++ (escapes 'é' ++ "?x=%#b c") := by decide +kernel
  obtain ⟨p, authority, parsed, given, exactly⟩ := (encode_encode_iff url).2 done
  obtain rfl : parts = p := Except.ok.inj (read.symm.trans parsed)
  obtain ⟨host, again⟩ :=
    Parts.startsAgain_of_plain read (by decide) (by decide) (by decide)
  obtain rfl : parts.authority = authority := Except.ok.inj (host.symm.trans given)
  refine ⟨done, (exactly again).mpr fun _ second rewritten => ?_⟩
  have own : authorityAgain parts.authority = .ok parts.authority := by decide +kernel
  rw [decoded]
  exact ⟨Except.ok.inj (rewritten.symm.trans own), spelled, by decide +kernel⟩

end MarkdownSite.Url
