import MarkdownSite.Proofs.Url.Encode
import MarkdownSite.Url.Site

/-!
# Where URLs lead

For the question whether a link leads out of the site only the scheme and the authority of its URL
count. A URL leads to a host, or to the site that it stands on, or to no page.
-/

namespace MarkdownSite.Url

open Text

/-! ## How a URL starts -/

/-- Whether a character stays when a URL is cleaned, wherever it stands. -/
def isKept (c : Char) : Bool := !(c == '\t' || c == '\r' || c == '\n')

/-- The scheme and the authority with which a text starts, whether or not it is a URL. -/
def start (t : Text) : Text × Text :=
  ((splitScheme (cleanUrl t)).1, (splitAuthority (splitScheme (cleanUrl t)).2).1)

/-- Whether an authority can be read. -/
def isReadable (authority : Text) : Bool :=
  (checkBrackets authority).isOk && (checkLookalikes authority).isOk

/-- What follows the scheme and the authority of a text. -/
def following (t : Text) : Text := (splitAuthority (splitScheme (cleanUrl t)).2).2

/-- The path, the query and the fragment of what follows an authority. -/
def splitTail (t : Text) : Text × Text × Text :=
  ((splitAt '?' (splitAt '#' t).1).1, (splitAt '?' (splitAt '#' t).1).2, (splitAt '#' t).2)

/-- A text whose authority can be read is a URL with the parts that are read one after another. -/
theorem parse_eq_ok_iff {t : Text} {p : Parts} :
    Parts.parse t = .ok p ↔ isReadable (start t).2 = true ∧ p = {
      scheme := (start t).1
      authority := (start t).2
      path := (splitTail (following t)).1
      query := (splitTail (following t)).2.1
      fragment := (splitTail (following t)).2.2 } := by
  unfold isReadable start following splitTail Parts.parse Parts.parseWith
  dsimp only
  cases checkBrackets (splitAuthority (splitScheme (cleanUrl t)).2).1 with
  | error e => simp [bind, Except.bind, Except.isOk, Except.toBool]
  | ok _ =>
    cases checkLookalikes (splitAuthority (splitScheme (cleanUrl t)).2).1 with
    | error e => simp [bind, Except.bind, Except.isOk, Except.toBool]
    | ok _ =>
      have assumed : (if (splitScheme (cleanUrl t)).1.isEmpty then []
          else (splitScheme (cleanUrl t)).1) = (splitScheme (cleanUrl t)).1 := by
        cases (splitScheme (cleanUrl t)).1 <;> rfl
      change Except.ok _ = Except.ok p ↔ true = true ∧ _
      rw [assumed, Except.ok.injEq, eq_self_iff_true, true_and]
      exact eq_comm

/-- A text is a URL if its authority can be read. -/
theorem parse_cases (t : Text) :
    (isReadable (start t).2 = true ∧
        ∃ p, Parts.parse t = .ok p ∧ p.scheme = (start t).1 ∧ p.authority = (start t).2) ∨
      (isReadable (start t).2 = false ∧ ∃ e, Parts.parse t = .error e) := by
  cases readable : isReadable (start t).2 with
  | true => exact .inl ⟨rfl, _, parse_eq_ok_iff.mpr ⟨readable, rfl⟩, rfl, rfl⟩
  | false =>
    cases parsed : Parts.parse t with
    | error e => exact .inr ⟨rfl, e, rfl⟩
    | ok p => cases readable.symm.trans (parse_eq_ok_iff.mp parsed).1

/-- A scheme that is assumed is that of a URL without one. -/
theorem parseWith_eq (scheme t : Text) :
    Parts.parseWith scheme t = (Parts.parse t).map fun p =>
      { p with scheme := if p.scheme.isEmpty then scheme else p.scheme } := by
  unfold Parts.parse Parts.parseWith
  dsimp only
  cases checkBrackets (splitAuthority (splitScheme (cleanUrl t)).2).1 with
  | error e => rfl
  | ok _ =>
    cases checkLookalikes (splitAuthority (splitScheme (cleanUrl t)).2).1 with
    | error e => rfl
    | ok _ =>
      change Except.ok _ = Except.ok _
      congr 2
      cases (splitScheme (cleanUrl t)).1 with
      | nil => rfl
      | cons c scheme => rfl

/-! ## Schemes -/

/-- A scheme as it is read, or none: a letter and characters that schemes may have, in lower
case. -/
def IsScheme (scheme : Text) : Prop :=
  scheme = [] ∨ (scheme.head?.any Char.isAlpha = true ∧ scheme.all isSchemeChar = true ∧
    asciiLower scheme = scheme)

/-- A character may stand in a scheme exactly if its lower case may. -/
theorem isSchemeChar_toLower (c : Char) : isSchemeChar c.toLower = isSchemeChar c := by
  have capitals : ∀ n < 26, isSchemeChar (Char.ofNat (65 + n)).toLower =
      isSchemeChar (Char.ofNat (65 + n)) := by decide
  rcases toLower_cases c with same | ⟨n, small, rfl⟩
  · rw [same]
  · exact capitals n small

/-- The lower case of a scheme's characters makes a scheme. -/
theorem isScheme_asciiLower {scheme : Text} (letter : scheme.head?.any Char.isAlpha = true)
    (allowed : scheme.all isSchemeChar = true) : IsScheme (asciiLower scheme) := by
  refine .inr ⟨?_, ?_, ?_⟩
  · cases scheme with
    | nil => cases letter
    | cons c rest => exact (isAlpha_toLower c).trans letter
  · rw [List.all_eq_true] at allowed ⊢
    intro c member
    obtain ⟨d, inside, rfl⟩ := List.mem_map.mp member
    rw [isSchemeChar_toLower]
    exact allowed d inside
  · unfold asciiLower
    rw [List.map_map]
    exact List.map_congr_left fun c _ => toLower_toLower c

/-- The scheme that is split off is one. -/
theorem isScheme_splitScheme (t : Text) : IsScheme (splitScheme t).1 := by
  unfold splitScheme
  split
  · rename_i c rest
    split
    · rename_i scheme after found
      split
      · rename_i letters
        rw [Bool.and_eq_true] at letters
        have whole := eq_append_of_splitFirst found
        cases scheme with
        | nil => exact .inl rfl
        | cons d scheme =>
          obtain ⟨same, -⟩ := List.cons.inj whole
          refine isScheme_asciiLower ?_ letters.2
          rw [List.head?_cons, Option.any_some, ← same]
          exact letters.1
      · exact .inl rfl
    · exact .inl rfl
  · exact .inl rfl

/-- A scheme before a colon is split off, in lower case. -/
theorem splitScheme_letters {scheme : Text} (letter : scheme.head?.any Char.isAlpha = true)
    (allowed : scheme.all isSchemeChar = true) (rest : Text) :
    splitScheme (scheme ++ ':' :: rest) = (asciiLower scheme, rest) := by
  have absent : ':' ∉ scheme := fun member =>
    absurd (List.all_eq_true.mp allowed ':' member) (by decide)
  have cut : splitFirst ":" (scheme ++ ':' :: rest) = some (scheme, rest) :=
    splitFirst_singleton absent rest
  cases scheme with
  | nil => cases letter
  | cons c others =>
    have letters : (c.isAlpha && (c :: others).all isSchemeChar) = true := by
      rw [allowed, Bool.and_true]
      exact letter
    rw [List.cons_append] at cut ⊢
    unfold splitScheme
    simp only [cut, letters, ↓reduceIte]

/-- A scheme in lower case is split off as it is. -/
theorem splitScheme_append {scheme : Text} (valid : IsScheme scheme) (present : scheme ≠ [])
    (rest : Text) : splitScheme (scheme ++ ':' :: rest) = (scheme, rest) := by
  obtain ⟨letter, allowed, lower⟩ := valid.resolve_left present
  rw [splitScheme_letters letter allowed, lower]

/-- No scheme is split off a text that starts with no letter. -/
theorem splitScheme_of_head {t : Text} (other : t.head?.any Char.isAlpha = false) :
    splitScheme t = ([], t) := by
  cases t with
  | nil => rfl
  | cons c rest =>
    have plain : c.isAlpha = false := other
    unfold splitScheme
    simp only [plain, Bool.false_and, Bool.false_eq_true, ↓reduceIte]
    split <;> rfl

/-! ## Authorities -/

/-- Whether a character may stand in an authority that is read. -/
def isInner (c : Char) : Bool := !endsAuthority c

/-- What is split off as an authority, if two slashes announce one. -/
theorem splitAuthority_fst (t : Text) :
    (splitAuthority ('/' :: '/' :: t)).1 = t.takeWhile isInner :=
  rfl

/-- What is left of a text after its scheme stood in the text. -/
theorem mem_of_mem_splitScheme {t : Text} {c : Char} (member : c ∈ (splitScheme t).2) : c ∈ t := by
  unfold splitScheme at member
  split at member
  · split at member
    · rename_i scheme after found
      split at member
      · rw [eq_append_of_splitFirst found]
        exact List.mem_append_right _ member
      · exact member
    · exact member
  · cases member

/-- The characters of an authority that is read end no authority and stay when a URL is cleaned. -/
theorem mem_start_snd {t : Text} {c : Char} (member : c ∈ (start t).2) :
    isInner c = true ∧ isKept c = true := by
  unfold start splitAuthority at member
  dsimp only at member
  split at member
  · rename_i rest same
    have inside : c ∈ cleanUrl t := by
      refine mem_of_mem_splitScheme ?_
      rw [same]
      exact List.mem_cons_of_mem _ (List.mem_cons_of_mem _ ((List.takeWhile_prefix _).mem member))
    exact ⟨List.mem_takeWhile_imp member, (List.mem_filter.mp inside).2⟩
  · cases member

/-- A URL that can be read starts with its scheme and its authority. -/
theorem start_of_parse {t : Text} {p : Parts} (parsed : Parts.parse t = .ok p) :
    start t = (p.scheme, p.authority) ∧ isReadable p.authority = true := by
  rcases parse_cases t with ⟨readable, q, read, scheme, authority⟩ | ⟨-, e, refused⟩
  · cases parsed.symm.trans read
    rw [scheme, authority]
    exact ⟨rfl, readable⟩
  · rw [refused] at parsed
    cases parsed

/-- The characters of an authority that was read end no authority and stay when a URL is
cleaned. -/
theorem inner_of_parse {t : Text} {p : Parts} (parsed : Parts.parse t = .ok p) :
    ∀ c ∈ p.authority, isInner c = true ∧ isKept c = true := by
  intro c member
  have started := congrArg Prod.snd (start_of_parse parsed).1
  rw [← show (start t).2 = p.authority from started] at member
  exact mem_start_snd member

/-- Cleaning drops nothing but tabs and line ends where a text starts with no control and no
space. -/
theorem cleanUrl_of_head {t : Text} (visible : ∀ c ∈ t.head?, 32 < c.toNat) :
    cleanUrl t = t.filter isKept := by
  cases t with
  | nil => rfl
  | cons c rest =>
    have first : ¬c.toNat ≤ 32 := Nat.not_le_of_gt (visible c rfl)
    unfold cleanUrl
    rw [List.dropWhile_cons_of_neg (by simpa using first)]
    rfl

/-- A character of a class without controls and spaces is neither. -/
theorem lt_of_class {p : Char → Bool} (controls : ∀ n < 33, p (Char.ofNat n) = false) {c : Char}
    (belongs : p c = true) : 32 < c.toNat := by
  by_contra small
  have refused := controls c.toNat (by omega)
  rw [Char.ofNat_toNat, belongs] at refused
  cases refused

/-- A character that is no control and no space stays when a URL is cleaned. -/
theorem isKept_of_lt {c : Char} (visible : 32 < c.toNat) : isKept c = true := by
  have other {d : Char} (control : d.toNat ≤ 32) : (c == d) = false := by
    refine beq_false_of_ne ?_
    rintro rfl
    omega
  simp only [isKept, other (show '\t'.toNat ≤ 32 by decide), other (show '\r'.toNat ≤ 32 by decide),
    other (show '\n'.toNat ≤ 32 by decide), Bool.or_self, Bool.not_false]

/-- Cleaning leaves a scheme, in any letter case, and what marks its end as they are. -/
theorem cleanUrl_letters {scheme : Text} (letter : scheme.head?.any Char.isAlpha = true)
    (allowed : scheme.all isSchemeChar = true) (rest : Text) :
    cleanUrl (scheme ++ ':' :: rest) = scheme ++ ':' :: rest.filter isKept := by
  have visible : ∀ c ∈ scheme, 32 < c.toNat :=
    fun c member => lt_of_class (by decide) (List.all_eq_true.mp allowed c member)
  have whole : scheme.filter isKept = scheme :=
    List.filter_eq_self.mpr fun c member => isKept_of_lt (visible c member)
  have colon : isKept ':' = true := rfl
  rw [cleanUrl_of_head, List.filter_append, whole, List.filter_cons_of_pos colon]
  intro c first
  cases scheme with
  | nil => cases letter
  | cons d others =>
    cases first
    exact visible c List.mem_cons_self

/-- Cleaning leaves a scheme in lower case and what marks its end as they are. -/
theorem cleanUrl_scheme {scheme : Text} (valid : IsScheme scheme) (present : scheme ≠ [])
    (rest : Text) : cleanUrl (scheme ++ ':' :: rest) = scheme ++ ':' :: rest.filter isKept := by
  obtain ⟨letter, allowed, -⟩ := valid.resolve_left present
  exact cleanUrl_letters letter allowed rest

/-- A scheme and an authority as they start a URL. -/
def origin (scheme authority : Text) : Text :=
  (if scheme.isEmpty then [] else scheme ++ [':']) ++ ("//" ++ authority)

/-- The scheme of a URL that starts with a scheme and an authority is split off. -/
theorem splitScheme_origin {scheme : Text} (valid : IsScheme scheme) (authority rest : Text) :
    splitScheme (cleanUrl (origin scheme authority ++ rest)) =
      (scheme, '/' :: '/' :: (authority ++ rest).filter isKept) := by
  have slash : isKept '/' = true := rfl
  by_cases present : scheme = []
  · have whole : origin scheme authority ++ rest = '/' :: '/' :: (authority ++ rest) := by
      rw [present]
      rfl
    rw [whole, cleanUrl_of_head (by simp), List.filter_cons_of_pos slash,
      List.filter_cons_of_pos slash, splitScheme_of_head rfl, present]
  · have whole : origin scheme authority ++ rest =
        scheme ++ ':' :: '/' :: '/' :: (authority ++ rest) := by
      simp [origin, present]
    rw [whole, cleanUrl_scheme valid present, List.filter_cons_of_pos slash,
      List.filter_cons_of_pos slash, splitScheme_append valid present]

/-- What is read of a URL that starts with a scheme and an authority. -/
theorem start_origin {scheme : Text} (valid : IsScheme scheme) (authority rest : Text) :
    start (origin scheme authority ++ rest) =
      (scheme, ((authority ++ rest).filter isKept).takeWhile isInner) := by
  unfold start
  rw [splitScheme_origin valid, splitAuthority_fst]

/-- What follows an authority and does not belong to it plays no part. -/
theorem start_origin_append {scheme : Text} (valid : IsScheme scheme) (authority : Text)
    {rest : Text} (ends : ∀ c ∈ rest.head?, endsAuthority c = true) :
    start (origin scheme authority ++ rest) = start (origin scheme authority) := by
  have alone := start_origin valid authority []
  rw [List.append_nil, List.append_nil] at alone
  rw [start_origin valid, alone]
  cases rest with
  | nil => rw [List.append_nil]
  | cons c rest =>
    have outer : endsAuthority c = true := ends c rfl
    have kept : isKept c = true := by
      simp only [endsAuthority, Bool.or_eq_true, beq_iff_eq] at outer
      rcases outer with (rfl | rfl) | rfl <;> rfl
    rw [List.filter_append, List.filter_cons_of_pos kept,
      takeWhile_append_cons (by simp [isInner, outer])]

/-- An authority that was read is read again. -/
theorem start_origin_of_read {scheme authority : Text} (valid : IsScheme scheme)
    (inner : ∀ c ∈ authority, isInner c = true ∧ isKept c = true) :
    start (origin scheme authority) = (scheme, authority) := by
  have alone := start_origin valid authority []
  have kept : authority.filter isKept = authority :=
    List.filter_eq_self.mpr fun c member => (inner c member).2
  rwa [List.append_nil, List.append_nil, kept,
    List.takeWhile_eq_self_iff.mpr fun c member => (inner c member).1] at alone

/-- A path after an authority, which starts with a slash unless it is empty. -/
def rootedPath (path : Text) : Text :=
  if path.isEmpty || startsWith "/" path then path else '/' :: path

/-- A path after an authority starts with a slash. -/
theorem head?_rootedPath (path : Text) : ∀ c ∈ (rootedPath path).head?, c = '/' := by
  intro c first
  unfold rootedPath at first
  split at first
  · rename_i either
    rcases Bool.or_eq_true_iff.mp either with empty | slash
    · rw [List.isEmpty_iff.mp empty] at first
      cases first
    · obtain ⟨rest, path⟩ := startsWith_iff.mp slash
      rw [← path] at first
      cases first
      rfl
  · cases first
    rfl

/-- What follows an authority ends it. -/
theorem Parts.endsAuthority_of_head? (p : Parts) :
    ∀ c ∈ (rootedPath p.path ++ p.ending).head?, endsAuthority c = true := by
  intro c first
  have slash := head?_rootedPath p.path
  cases place : rootedPath p.path with
  | nil =>
    rw [place] at first
    rcases p.head?_ending c first with rfl | rfl <;> rfl
  | cons d path =>
    rw [place] at first slash
    rw [show c = '/' from slash c first]
    rfl

/-- A URL is put together again with its authority if it has one, if its scheme wants one, or if its
path would be taken for one. -/
theorem toText_placed {p : Parts} (placed : p.authority ≠ [] ∨
    hierarchicalSchemes.contains p.scheme = true ∨ startsWith "//" p.path = true) :
    p.toText = origin p.scheme p.authority ++ (rootedPath p.path ++ p.ending) := by
  have either : (!p.authority.isEmpty || hierarchicalSchemes.contains p.scheme
      || startsWith "//" p.path) = true := by
    rcases placed with present | scheme | path
    · rw [List.isEmpty_eq_false_iff.mpr present]
      rfl
    · rw [scheme, Bool.or_true, Bool.true_or]
    · rw [path, Bool.or_true]
  unfold Parts.toText origin rootedPath
  rw [if_pos either]
  simp only [Parts.ending, List.append_assoc]

/-- A URL without an authority is put together again without one, if neither its scheme nor its path
wants it. -/
theorem toText_bare {p : Parts} (hostless : p.authority = [])
    (free : hierarchicalSchemes.contains p.scheme = false)
    (plain : startsWith "//" p.path = false) :
    p.toText = (if p.scheme.isEmpty then [] else p.scheme ++ [':']) ++ (p.path ++ p.ending) := by
  unfold Parts.toText Parts.ending
  simp only [hostless, free, plain, List.isEmpty_nil, Bool.not_true, Bool.or_self,
    Bool.false_eq_true, ↓reduceIte, List.append_assoc]

/-- A URL with an authority, or with a scheme that wants one, starts with both when it is put
together again. -/
theorem toText_eq_origin {p : Parts}
    (hierarchical : p.authority ≠ [] ∨ hierarchicalSchemes.contains p.scheme = true) :
    ∃ rest, p.toText = origin p.scheme p.authority ++ rest ∧
      ∀ c ∈ rest.head?, endsAuthority c = true :=
  ⟨_, toText_placed (hierarchical.imp_right .inl), p.endsAuthority_of_head?⟩

/-! ## Where a URL leads -/

/-- Where a URL leads that stands on a page of a site. -/
inductive Lead where
  /-- To no page. -/
  | nowhere
  /-- To the site itself. -/
  | sameSite
  /-- To a host. -/
  | host (name : Text)
  deriving DecidableEq, Repr

/-- To a host if there is one. -/
def Lead.ofHost : Option Text → Lead
  | some name => host name
  | none => nowhere

/-- Where a URL leads with the given scheme and authority. -/
def leadOf (scheme authority : Text) : Lead :=
  let host := Lead.ofHost (Parts.host? { authority })
  if !isReadable authority then .nowhere
  else if scheme.isEmpty || scheme == "http".toList then
    if authority.isEmpty then .sameSite else host
  else if scheme == "https".toList then host
  else .nowhere

/-- Where a URL leads. -/
def lead (t : Text) : Lead := leadOf (start t).1 (start t).2

/-- The host of a page on the web that a URL names by itself. -/
def pageHost? (t : Text) : Option Text :=
  match Parts.parse t with
  | .error _ => none
  | .ok p => if p.scheme = "http" ∨ p.scheme = "https" then p.host? else none

/-- The host to which a URL leads from a base. -/
def Lead.host? (base : Parts) : Lead → Option Text
  | nowhere => none
  | sameSite => base.host?
  | host name => some name

/-- The host of a page that starts with a scheme of the web and an authority. -/
theorem pageHost?_eq {t : Text} (web : (start t).1 = "http" ∨ (start t).1 = "https")
    (readable : isReadable (start t).2 = true) :
    pageHost? t = Parts.host? { authority := (start t).2 } := by
  rcases parse_cases t with ⟨-, p, parsed, scheme, authority⟩ | ⟨unreadable, -⟩
  · unfold pageHost?
    rw [parsed]
    dsimp only
    rw [scheme, if_pos web, ← authority]
    rfl
  · rw [readable] at unreadable
    cases unreadable

/-- A page of the web that is put together again is on the host of its authority. -/
theorem pageHost?_toText {p : Parts} (http : p.scheme = "http")
    (inner : ∀ c ∈ p.authority, isInner c = true ∧ isKept c = true)
    (readable : isReadable p.authority = true) : pageHost? p.toText = p.host? := by
  have hierarchical : hierarchicalSchemes.contains p.scheme = true := by
    rw [http]
    decide
  have valid : IsScheme p.scheme := by
    rw [http]
    exact .inr (by decide)
  obtain ⟨rest, whole, ends⟩ := toText_eq_origin (.inr hierarchical)
  have started : start p.toText = (p.scheme, p.authority) := by
    rw [whole, start_origin_append valid _ ends, start_origin_of_read valid inner]
  rw [pageHost?_eq, started]
  · rfl
  · rw [started]
    exact .inl http
  · rw [started]
    exact readable

section Resolve

variable {base t : Text} {b p : Parts}

/-- What is no URL names none relative to a base either. -/
theorem resolve_error (parsed : Parts.parse base = .ok b) (nonempty : t ≠ []) {e : UrlError}
    (refused : Parts.parse t = .error e) : resolve base t = .error e := by
  have given : t.isEmpty = false := List.isEmpty_eq_false_iff.mpr nonempty
  unfold resolve
  simp only [given, parsed, parseWith_eq, refused, Except.map, bind, Except.bind,
    Bool.false_eq_true, ↓reduceIte]

/-- A URL with another scheme than the base stays. -/
theorem resolve_other (parsed : Parts.parse base = .ok b) (nonempty : t ≠ [])
    (read : Parts.parse t = .ok p) (present : p.scheme ≠ []) (other : p.scheme ≠ b.scheme) :
    resolve base t = .ok t := by
  have given : t.isEmpty = false := List.isEmpty_eq_false_iff.mpr nonempty
  have written : p.scheme.isEmpty = false := List.isEmpty_eq_false_iff.mpr present
  unfold resolve
  simp only [given, parsed, parseWith_eq, read, Except.map, bind, Except.bind, written,
    Bool.false_eq_true, ↓reduceIte, ne_eq, other, not_false_eq_true, true_or]
  rfl

/-- Any other URL has the scheme of the base, and its authority or else that of the base. -/
theorem resolve_same (parsed : Parts.parse base = .ok b) (http : b.scheme = "http")
    (nonempty : t ≠ []) (read : Parts.parse t = .ok p)
    (same : p.scheme = [] ∨ p.scheme = "http") :
    ∃ path query, resolve base t = .ok (Parts.toText {
      scheme := "http"
      authority := if p.authority.isEmpty then b.authority else p.authority
      path
      query
      fragment := p.fragment }) := by
  have given : t.isEmpty = false := List.isEmpty_eq_false_iff.mpr nonempty
  have assumed : (if p.scheme.isEmpty = true then "http".toList else p.scheme) =
      "http".toList := by
    rcases same with none | written
    · rw [none]
      rfl
    · rw [written]
      rfl
  have relative : relativeSchemes.contains "http".toList = true := by decide
  have hierarchical : hierarchicalSchemes.contains "http".toList = true := by decide
  unfold resolve
  simp only [given, parsed, parseWith_eq, read, Except.map, bind, Except.bind, http, assumed,
    relative, hierarchical, Bool.false_eq_true, ↓reduceIte, ne_eq, not_true_eq_false, false_or,
    Bool.not_true, Bool.or_true, Bool.true_and]
  cases present : p.authority.isEmpty with
  | false => exact ⟨p.path, p.query, rfl⟩
  | true =>
    simp only [Bool.not_true, Bool.false_eq_true, ↓reduceIte]
    split
    · exact ⟨_, _, rfl⟩
    · exact ⟨_, _, rfl⟩

end Resolve

/-- The host of what leads to a host, if there is one. -/
theorem Lead.host?_ofHost (b : Parts) (host : Option Text) : (ofHost host).host? b = host := by
  cases host with
  | none => rfl
  | some name => rfl

/-- A URL that can be read leads where its scheme and its authority lead. -/
theorem lead_of_parse {t : Text} {p : Parts} (parsed : Parts.parse t = .ok p) :
    lead t = leadOf p.scheme p.authority := by
  rw [lead, (start_of_parse parsed).1]

/-- From a base that can be read a text names a page on the host to which it leads. -/
theorem pageHost_resolve {base : Text} {b : Parts} (parsed : Parts.parse base = .ok b)
    (http : b.scheme = "http") (t : Text) :
    ((resolve base t).toOption.bind pageHost?) = (lead t).host? b := by
  have own : pageHost? base = b.host? := by
    unfold pageHost?
    rw [parsed]
    dsimp only
    rw [if_pos (.inl http)]
  by_cases nonempty : t = []
  · rw [nonempty]
    exact own
  rcases parse_cases t with ⟨-, p, read, -⟩ | ⟨unreadable, e, refused⟩
  · have readable : isReadable p.authority = true := (start_of_parse read).2
    rw [lead_of_parse read]
    by_cases same : p.scheme = [] ∨ p.scheme = "http"
    · obtain ⟨path, query, resolved⟩ := resolve_same parsed http nonempty read same
      have relative : (p.scheme.isEmpty || p.scheme == "http".toList) = true := by
        rcases same with none | written
        · rw [none]
          rfl
        · rw [written]
          rfl
      have leads : leadOf p.scheme p.authority =
          if p.authority.isEmpty then .sameSite else .ofHost p.host? := by
        unfold leadOf
        simp only [readable, relative, Bool.not_true, Bool.false_eq_true, ↓reduceIte]
        rfl
      have host (authority : Text) := pageHost?_toText
        (p := { scheme := "http", authority, path, query, fragment := p.fragment }) rfl
      rw [resolved, leads]
      change pageHost? _ = _
      cases p.authority.isEmpty with
      | true =>
        simp only [↓reduceIte]
        have inner := inner_of_parse parsed
        exact host b.authority inner (start_of_parse parsed).2
      | false =>
        simp only [Bool.false_eq_true, ↓reduceIte]
        rw [Lead.host?_ofHost]
        have inner := inner_of_parse read
        exact host p.authority inner readable
    · rw [not_or] at same
      have other : p.scheme ≠ b.scheme := by
        rw [http]
        exact same.2
      rw [resolve_other parsed nonempty read same.1 other]
      change pageHost? t = _
      have elsewhere : (p.scheme.isEmpty || p.scheme == "http".toList) = false := by
        rw [List.isEmpty_eq_false_iff.mpr same.1, beq_false_of_ne same.2]
        rfl
      unfold pageHost? leadOf
      rw [read]
      simp only [readable, elsewhere, same.2, Bool.not_true, Bool.false_eq_true, ↓reduceIte,
        false_or]
      by_cases https : p.scheme = "https"
      · simp only [https, beq_self_eq_true, ↓reduceIte]
        exact (Lead.host?_ofHost b p.host?).symm
      · simp only [https, beq_false_of_ne https, Bool.false_eq_true, ↓reduceIte]
        rfl
  · rw [resolve_error parsed nonempty refused]
    have nowhere : lead t = .nowhere := by
      unfold lead leadOf
      rw [unreadable]
      rfl
    rw [nowhere]
    rfl

/-- From a base that cannot be read no text names a page. -/
theorem pageHost_resolve_error {base : Text} {e : UrlError} (refused : Parts.parse base = .error e)
    (t : Text) : (resolve base t).toOption.bind pageHost? = none := by
  unfold resolve
  by_cases empty : t.isEmpty = true
  · rw [if_pos empty]
    change pageHost? base = none
    unfold pageHost?
    rw [refused]
  · rw [if_neg empty, refused]
    rfl

/-! ## Links out of the site -/

/-- Whether what leads somewhere leads out of the site at `siteUrl`; the hosts in `exclude` count as
the site's. -/
def Lead.isExternal (leads : Lead) (siteUrl : Text) (exclude : List Text) : Bool :=
  match siteHost? siteUrl with
  | none => false
  | some own =>
    match Parts.parse ("http://" ++ own ++ "/") with
    | .error _ => false
    | .ok base =>
      match leads.host? base with
      | none => false
      | some name => !exclude.contains name && name != own

/-- The address of a host has the scheme of the web. -/
theorem scheme_of_parse_host {host : Text} {b : Parts}
    (parsed : Parts.parse ("http://" ++ host ++ "/") = .ok b) : b.scheme = "http" := by
  have valid : IsScheme "http" := .inr (by decide)
  have started := (start_of_parse parsed).1
  have whole : "http://" ++ host ++ "/" = origin "http" (host ++ "/") ++ ([] : Text) := by
    simp [origin]
  rw [whole, start_origin valid] at started
  exact (congrArg Prod.fst started).symm

/-- Whether a link leads out of the site is a question of the host of the page that it names. -/
theorem isExternal_target (own url : Text) (exclude : List Text) :
    (match linkTarget own url with
      | .error _ => false
      | .ok target =>
        match target.host? with
        | none => false
        | some host =>
          (target.scheme = "http" || target.scheme = "https") && !exclude.contains host
            && host != own) =
      match (resolve ("http://" ++ own ++ "/") (decodeEntities url)).toOption.bind pageHost? with
      | none => false
      | some host => !exclude.contains host && host != own := by
  unfold linkTarget
  cases resolve ("http://" ++ own ++ "/") (decodeEntities url) with
  | error e => rfl
  | ok named =>
    change (match Parts.parse named with
      | .error _ => false
      | .ok target => _) = match pageHost? named with
      | none => false
      | some host => _
    unfold pageHost?
    cases Parts.parse named with
    | error e => rfl
    | ok target =>
      dsimp only
      by_cases web : target.scheme = "http" ∨ target.scheme = "https"
      · have page : (decide (target.scheme = "http") || decide (target.scheme = "https")) =
            true := by
          simpa using web
        simp only [page, if_pos web, Bool.true_and]
      · have other : (decide (target.scheme = "http") || decide (target.scheme = "https")) =
            false := by
          simpa using web
        simp only [other, if_neg web, Bool.false_and]
        split <;> rfl

/-- **Whether a link leads out of a site depends only on where it leads**, its references
decoded. -/
theorem isExternal_eq (url siteUrl : Text) (exclude : List Text) :
    isExternal url siteUrl exclude =
      (lead (decodeEntities url)).isExternal siteUrl exclude := by
  unfold isExternal Lead.isExternal
  cases siteHost? siteUrl with
  | none => rfl
  | some own =>
    refine (isExternal_target own url exclude).trans ?_
    cases parsed : Parts.parse ("http://" ++ own ++ "/") with
    | error e =>
      rw [pageHost_resolve_error parsed]
      simp only [parsed]
    | ok base =>
      rw [pageHost_resolve parsed (scheme_of_parse_host parsed)]
      simp only [parsed]

/-! ## Sites that tell leads apart -/

namespace Lead

/-- Whether a host is neither that of a site nor one that counts as the site's. -/
def isForeign (own : Text) (exclude : List Text) : Lead → Bool
  | host name => !exclude.contains name && name != own
  | _ => false

/-- Out of a site whose pages are on its host lead the foreign hosts. -/
theorem isExternal_eq_isForeign {siteUrl own : Text} {b : Parts}
    (site : siteHost? siteUrl = some own) (parsed : Parts.parse ("http://" ++ own ++ "/") = .ok b)
    (page : b.host? = some own) (leads : Lead) (exclude : List Text) :
    leads.isExternal siteUrl exclude = leads.isForeign own exclude := by
  unfold isExternal
  simp only [site, parsed]
  cases leads with
  | nowhere => rfl
  | sameSite =>
    simp only [host?, page]
    rw [bne_self_eq_false, Bool.and_false]
    rfl
  | host name => rfl

/-- There is a site on another host than a given one. -/
theorem exists_site (name : Text) : ∃ siteUrl own : Text, own ≠ name ∧
    ∀ (leads : Lead) exclude, leads.isExternal siteUrl exclude = leads.isForeign own exclude := by
  by_cases same : name = "a"
  · refine ⟨"http://b", "b", ?_, isExternal_eq_isForeign
      (b := { scheme := "http", authority := "b", path := "/" }) (by decide +kernel)
      (by decide +kernel) (by decide +kernel)⟩
    rw [same]
    decide
  · exact ⟨"http://a", "a", Ne.symm same, isExternal_eq_isForeign
      (b := { scheme := "http", authority := "a", path := "/" }) (by decide +kernel)
      (by decide +kernel) (by decide +kernel)⟩

/-- A site whose host is a numeric address takes its own pages for those of another host, for the
brackets around the address are lost. -/
theorem isExternal_numeric :
    nowhere.isExternal "http://[a::1]" [] = false ∧
      sameSite.isExternal "http://[a::1]" [] = true := by
  decide +kernel

/-- What leads to a host is told from what does not by a site elsewhere. -/
theorem exists_site_of_host (name : Text) {other : Lead} (differ : other ≠ host name) :
    ∃ siteUrl exclude,
      (host name).isExternal siteUrl exclude ≠ other.isExternal siteUrl exclude := by
  obtain ⟨siteUrl, own, elsewhere, foreign⟩ := exists_site name
  have away : (name != own) = true := bne_iff_ne.mpr (Ne.symm elsewhere)
  cases other with
  | nowhere =>
    refine ⟨siteUrl, [], ?_⟩
    rw [foreign, foreign]
    simp [isForeign, away]
  | sameSite =>
    refine ⟨siteUrl, [], ?_⟩
    rw [foreign, foreign]
    simp [isForeign, away]
  | host second =>
    have apart : name ≠ second := fun same => differ (congrArg host same.symm)
    refine ⟨siteUrl, [second], ?_⟩
    rw [foreign, foreign]
    simp [isForeign, away, apart]

/-- **Sites tell leads apart**: what leads out of the same sites leads to the same place. -/
theorem forall_isExternal_iff {first second : Lead} :
    (∀ siteUrl exclude, first.isExternal siteUrl exclude = second.isExternal siteUrl exclude) ↔
      first = second := by
  refine ⟨fun same => ?_, fun same _ _ => by rw [same]⟩
  by_contra differ
  cases first with
  | host name =>
    obtain ⟨siteUrl, exclude, apart⟩ := exists_site_of_host name (Ne.symm differ)
    exact apart (same siteUrl exclude)
  | nowhere =>
    cases second with
    | host name =>
      obtain ⟨siteUrl, exclude, apart⟩ := exists_site_of_host name differ
      exact apart (same siteUrl exclude).symm
    | nowhere => exact differ rfl
    | sameSite =>
      have numeric := same "http://[a::1]" []
      rw [isExternal_numeric.1, isExternal_numeric.2] at numeric
      cases numeric
  | sameSite =>
    cases second with
    | host name =>
      obtain ⟨siteUrl, exclude, apart⟩ := exists_site_of_host name differ
      exact apart (same siteUrl exclude).symm
    | sameSite => exact differ rfl
    | nowhere =>
      have numeric := same "http://[a::1]" []
      rw [isExternal_numeric.1, isExternal_numeric.2] at numeric
      cases numeric

end Lead

end MarkdownSite.Url
