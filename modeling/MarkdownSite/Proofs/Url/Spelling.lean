import MarkdownSite.Proofs.Url.Escapes
import MarkdownSite.Proofs.Url.Site

/-!
# Spellings of a host

A document keeps the target of a link with the characters escaped that may not stand in a URL, those
of its host too, while the host of a site and the hosts that count as the site's are compared as they
are given. The statement here says which targets on such a host are not taken for pages elsewhere:
those with a host that is not in brackets and has nothing to escape.
-/

namespace MarkdownSite.Url

open Text

/-! ## Hosts that are escaped -/

/-- The marks between the parts of an authority, and the ampersand, stand for themselves in a target
and belong to no escape. -/
theorem target_mark {c : Char} (mark : c = ':' ∨ c = '@' ∨ c = '&') :
    hexDigit? c = none ∧ c ≠ '%' ∧ standsForItself targetCharacters c = true := by
  rcases mark with rfl | rfl | rfl <;> decide

/-- So do the marks that end an authority. -/
theorem target_mark_of_endsAuthority {c : Char} (mark : endsAuthority c = true) :
    hexDigit? c = none ∧ c ≠ '%' ∧ standsForItself targetCharacters c = true ∧ '&' ∉ [c] := by
  simp only [endsAuthority, Bool.or_eq_true, beq_iff_eq] at mark
  rcases mark with (rfl | rfl) | rfl <;> decide

/-- No bracket is left in a target. -/
theorem bracket_not_mem_target (t : Text) :
    '[' ∉ percentEncode targetCharacters t ∧ ']' ∉ percentEncode targetCharacters t := by
  have escaped {c : Char} (other : standsForItself targetCharacters c = false) :
      c ∉ percentEncode targetCharacters t := by
    intro member
    rw [standsForItself_of_mem_percentEncode (by decide) member] at other
    cases other
  exact ⟨escaped (by decide), escaped (by decide)⟩

/-- A target has ASCII characters only. -/
theorem isAscii_target (t : Text) : isAscii (percentEncode targetCharacters t) = true :=
  List.all_eq_true.mpr fun _ member => decide_eq_true
    (toNat_lt_of_standsForItself (by decide)
      (standsForItself_of_mem_percentEncode (by decide) member))

/-- Host and port of an authority that is escaped are those of the authority, escaped. -/
theorem hostAndPort_target (authority : Text) :
    hostAndPort (percentEncode targetCharacters authority) =
      percentEncode targetCharacters (hostAndPort authority) := by
  obtain ⟨noDigit, plain, itself⟩ := target_mark (.inr (.inl rfl))
  have kept (t : Text) : '@' ∉ t → '@' ∉ percentEncode targetCharacters t :=
    mt (mem_percentEncode_iff noDigit plain itself).mp
  by_cases member : '@' ∈ authority
  · obtain ⟨user, rest, rfl, absent⟩ := exists_last member
    rw [percentEncode_append, percentEncode_cons, if_pos itself, List.singleton_append, hostAndPort,
      splitLast_append (kept rest absent), hostAndPort, splitLast_append absent]
  · rw [hostAndPort_of_not_mem member, hostAndPort_of_not_mem (kept authority member)]

/-- The host of an authority that is escaped reaches up to the first colon of the authority. -/
theorem writtenHost_target (authority : Text) :
    writtenHost (percentEncode targetCharacters authority) =
      percentEncode targetCharacters ((hostAndPort authority).takeWhile (· != ':')) := by
  obtain ⟨noDigit, plain, itself⟩ := target_mark (.inl rfl)
  rw [writtenHost_of_not_mem, hostAndPort_target, takeWhile_percentEncode noDigit plain itself]
  rw [hostAndPort_target]
  exact (bracket_not_mem_target _).1

/-- A host is compared as before when it is escaped exactly if it has nothing to escape. -/
theorem lowerHost_target_iff (host : Text) :
    lowerHost (percentEncode targetCharacters host) = lowerHost host ↔
      ∀ c ∈ host, standsForItself targetCharacters c = true := by
  constructor
  · intro same
    -- each escape has a percent sign, and hosts are compared with the percent signs that they have
    have equal := congrArg (List.count '%') same
    rw [count_percent_lowerHost, count_percent_lowerHost] at equal
    exact standsForItself_of_count_le (by decide) (Nat.le_of_eq equal)
  · intro itself
    rw [percentEncode_eq_self itself]

/-! ## Where a target leads -/

/-- Whether a text starts with the scheme of a URL, in any letter case, and its authority. -/
def Parts.Opens (p : Parts) (t : Text) : Prop :=
  ∃ scheme rest, t = scheme ++ ':' :: '/' :: '/' :: (p.authority ++ rest) ∧
    asciiLower scheme = p.scheme ∧ ∀ c ∈ rest.head?, endsAuthority c = true

/-- The letter case of a scheme plays no part for what a text starts with. -/
theorem start_letters {scheme : Text} (letter : scheme.head?.any Char.isAlpha = true)
    (allowed : scheme.all isSchemeChar = true) (rest : Text) :
    start (scheme ++ ':' :: rest) = start (asciiLower scheme ++ ':' :: rest) := by
  have valid := isScheme_asciiLower letter allowed
  have present : asciiLower scheme ≠ [] := by
    cases scheme with
    | nil => cases letter
    | cons c others => simp [asciiLower]
  unfold start
  rw [cleanUrl_letters letter allowed, splitScheme_letters letter allowed,
    cleanUrl_scheme valid present, splitScheme_append valid present]

/-- A scheme in any letter case starts with a letter and has characters only that schemes may
have. -/
theorem letters_of_isScheme {scheme : Text} (valid : IsScheme (asciiLower scheme))
    (present : asciiLower scheme ≠ []) :
    scheme.head?.any Char.isAlpha = true ∧ scheme.all isSchemeChar = true := by
  obtain ⟨letter, allowed, -⟩ := valid.resolve_left present
  refine ⟨?_, List.all_eq_true.mpr fun c member => ?_⟩
  · cases scheme with
    | nil => cases letter
    | cons c others => exact (isAlpha_toLower c).symm.trans letter
  · rw [← isSchemeChar_toLower]
    exact List.all_eq_true.mp allowed c.toLower (List.mem_map_of_mem member)

/-- The characters of schemes stand for themselves in a target. -/
theorem standsForItself_of_isSchemeChar {c : Char} (allowed : isSchemeChar c = true) :
    standsForItself targetCharacters c = true ∧ c ≠ '&' := by
  constructor
  · simp only [isSchemeChar, Bool.or_eq_true, beq_iff_eq] at allowed
    rcases allowed with ((alphanumeric | rfl) | rfl) | rfl
    · simp [standsForItself, isUnreserved, alphanumeric]
    all_goals decide
  · rintro rfl
    cases allowed

/-- What has no ampersand is escaped in a target and stays when its references are decoded. -/
theorem decodeEntities_target {before : Text} (plain : '&' ∉ before) (rest : Text) :
    decodeEntities (target (before ++ rest)) =
      percentEncode targetCharacters before ++ decodeEntities (target rest) := by
  obtain ⟨noDigit, other, itself⟩ := target_mark (.inr (.inr rfl))
  have escaped : '&' ∉ percentEncode targetCharacters before :=
    mt (mem_percentEncode_iff noDigit other itself).mp plain
  unfold target decodeStrictEntities
  rw [markdownReferences.decode_append plain, percentEncode_append]
  exact browserReferences.decode_append escaped _

/-- What ends an authority does so in a target. -/
theorem endsAuthority_target {rest : Text} (ends : ∀ c ∈ rest.head?, endsAuthority c = true) :
    ∀ c ∈ (decodeEntities (target rest)).head?, endsAuthority c = true := by
  cases rest with
  | nil => nofun
  | cons d rest =>
    obtain ⟨-, -, itself, noReference⟩ := target_mark_of_endsAuthority (ends d rfl)
    have whole := decodeEntities_target noReference rest
    rw [percentEncode_cons, if_pos itself] at whole
    intro c first
    rw [show d :: rest = [d] ++ rest from rfl, whole] at first
    cases first
    exact ends d rfl

section Target

variable {u : Text} {p : Parts}

/-- A target starts with the scheme of the URL and its authority, escaped, unless this has
references. -/
theorem start_target (read : Parts.parse u = .ok p) (present : p.scheme ≠ []) (opens : p.Opens u)
    (plain : '&' ∉ p.authority) :
    start (decodeEntities (target u)) =
      (p.scheme, percentEncode targetCharacters p.authority) := by
  obtain ⟨scheme, rest, rfl, lower, ends⟩ := opens
  have valid : IsScheme p.scheme := by
    rw [(parse_eq_ok read).1]
    exact isScheme_splitScheme _
  obtain ⟨letter, allowed⟩ := letters_of_isScheme
    (show IsScheme (asciiLower scheme) by rwa [lower]) (by rwa [lower])
  have characters : ∀ c ∈ scheme, standsForItself targetCharacters c = true ∧ c ≠ '&' :=
    fun c member => standsForItself_of_isSchemeChar (List.all_eq_true.mp allowed c member)
  have marks : percentEncode targetCharacters "://" = "://" := by decide
  have encoded : percentEncode targetCharacters (scheme ++ "://" ++ p.authority) =
      scheme ++ "://" ++ percentEncode targetCharacters p.authority := by
    rw [percentEncode_append, percentEncode_append, marks,
      percentEncode_eq_self fun c member => (characters c member).1]
  have noReference : '&' ∉ scheme ++ "://" ++ p.authority := by
    simp only [List.mem_append, not_or]
    exact ⟨⟨fun member => (characters '&' member).2 rfl, by decide⟩, plain⟩
  have inner : ∀ c ∈ percentEncode targetCharacters p.authority,
      isInner c = true ∧ isKept c = true := by
    intro c member
    have itself := standsForItself_of_mem_percentEncode (by decide) member
    refine ⟨?_, isKept_of_lt (lt_of_class (by decide) itself)⟩
    by_contra outer
    obtain ⟨noDigit, other, own, -⟩ := target_mark_of_endsAuthority (c := c)
      (by simpa [isInner] using outer)
    exact outer (inner_of_parse read c ((mem_percentEncode_iff noDigit other own).mp member)).1
  have whole : scheme ++ ':' :: '/' :: '/' :: (p.authority ++ rest) =
      scheme ++ "://" ++ p.authority ++ rest := by simp
  have opening : asciiLower scheme ++ ':' :: '/' :: '/' ::
      (percentEncode targetCharacters p.authority ++ decodeEntities (target rest)) =
        origin p.scheme (percentEncode targetCharacters p.authority) ++
          decodeEntities (target rest) := by
    simp [origin, lower, present]
  calc start (decodeEntities (target (scheme ++ ':' :: '/' :: '/' :: (p.authority ++ rest))))
      = start (scheme ++ ':' :: '/' :: '/' ::
          (percentEncode targetCharacters p.authority ++ decodeEntities (target rest))) := by
        rw [whole, decodeEntities_target noReference, encoded]
        simp
    _ = (p.scheme, percentEncode targetCharacters p.authority) := by
        rw [start_letters letter allowed, opening,
          start_origin_append valid _ (endsAuthority_target ends),
          start_origin_of_read valid inner]

/-- A target leads to the host of the escaped authority, if this has one. -/
theorem lead_target (read : Parts.parse u = .ok p) (web : p.scheme = "http" ∨ p.scheme = "https")
    (opens : p.Opens u) (plain : '&' ∉ p.authority) (placed : p.authority ≠ []) :
    lead (decodeEntities (target u)) = .ofHost
      (Parts.host? { authority := percentEncode targetCharacters p.authority }) := by
  have present : p.scheme ≠ [] := by rcases web with same | same <;> simp [same]
  have readable := (isReadable_iff (isAscii_target p.authority)
    (.inl (bracket_not_mem_target p.authority).1)).mpr (bracket_not_mem_target p.authority)
  have written : percentEncode targetCharacters p.authority ≠ [] :=
    mt percentEncode_eq_nil_iff.mp placed
  rw [lead, start_target read present opens plain]
  unfold leadOf
  rcases web with same | same <;> simp [same, readable, written]

end Target

/-! ## Links that stay -/

/-- Whether a link is taken for one to a page elsewhere neither on a site with the given host nor
where this counts as the site's. -/
def StaysOwn (url host : Text) : Prop :=
  ∀ siteUrl exclude, siteHost? siteUrl = some host ∨ ExcludedHosts.Has host exclude →
    isExternal url siteUrl exclude.toList = false

/-- What leads to no page leads out of no site. -/
theorem Lead.isExternal_nowhere (siteUrl : Text) (exclude : List Text) :
    nowhere.isExternal siteUrl exclude = false := by
  unfold isExternal
  split
  · rfl
  · split <;> rfl

/-- What leads to the host of a site, or to one that counts as the site's, does not lead out of
it. -/
theorem Lead.isExternal_own {siteUrl host : Text} {exclude : List Text}
    (own : siteHost? siteUrl = some host ∨ host ∈ exclude) :
    (Lead.host host).isExternal siteUrl exclude = false := by
  unfold isExternal
  split
  · rfl
  · rename_i site named
    split
    · rfl
    · rcases own with same | counted
      · have equal : site = host := Option.some.inj (named.symm.trans same)
        simp [Lead.host?, equal]
      · simp [Lead.host?, counted]

/-- A numeric site takes its own pages for those of a host of another name, whichever single host
is excluded. -/
theorem Lead.exists_numeric_site (host : Text) :
    ∃ siteUrl, sameSite.isExternal siteUrl [host] = true := by
  by_cases same : host = "a"
  · refine ⟨"http://[b::1]", isExternal_of_colon
      (show siteHost? _ = some "b::1".toList by decide +kernel) (by decide) (by decide) (by decide)
      (by decide) ?_⟩
    rw [same]
    decide +kernel
  · refine ⟨"http://[a::1]", isExternal_of_colon
      (show siteHost? _ = some "a::1".toList by decide +kernel) (by decide) (by decide) (by decide)
      (by decide) ?_⟩
    have name : lowerHost ("a::1".toList.takeWhile (· != ':')) = "a" := by decide +kernel
    rw [name, List.mem_singleton]
    exact Ne.symm same

/-- A link stays on a host if it leads there or to no page. -/
theorem staysOwn_iff {url host : Text} (present : host ≠ []) :
    StaysOwn url host ↔
      lead (decodeEntities url) = .nowhere ∨ lead (decodeEntities url) = .host host := by
  unfold StaysOwn
  simp only [isExternal_eq]
  generalize lead (decodeEntities url) = leads
  constructor
  · intro stays
    have only : (ExcludedHosts.one host).toList = [host] := by
      simp [ExcludedHosts.toList, present]
    have inside (siteUrl : Text) : leads.isExternal siteUrl [host] = false := by
      rw [← only]
      exact stays siteUrl (.one host) (.inr rfl)
    cases leads with
    | nowhere => exact .inl rfl
    | host name =>
      by_contra other
      obtain ⟨siteUrl, own, elsewhere, foreign⟩ := Lead.exists_site name
      have apart : name ≠ host := fun same => other (.inr (congrArg Lead.host same))
      have stayed := inside siteUrl
      rw [foreign] at stayed
      simp [Lead.isForeign, apart, Ne.symm elsewhere] at stayed
    | sameSite =>
      obtain ⟨siteUrl, away⟩ := Lead.exists_numeric_site host
      rw [inside siteUrl] at away
      cases away
  · rintro (rfl | rfl) siteUrl exclude own
    · exact Lead.isExternal_nowhere siteUrl exclude.toList
    · exact Lead.isExternal_own (own.imp_right (exclude.mem_toList present).mpr)

/-- A host in brackets is compared with another spelling when its brackets are escaped. -/
theorem lowerHost_target_of_bracket (rest : Text) :
    lowerHost (percentEncode targetCharacters (('[' :: rest).takeWhile (· != ':'))) ≠
      lowerHost (rest.takeWhile (· != ']')) := by
  obtain ⟨noDigit, plain, itself⟩ := target_mark (.inl rfl)
  intro same
  have colon : ':' ∉ rest.takeWhile (· != ']') := by
    intro member
    have compared := (mem_lowerHost_iff (by decide) (by decide)).mpr member
    rw [← same, mem_lowerHost_iff (by decide) (by decide),
      mem_percentEncode_iff noDigit plain itself] at compared
    have other := List.mem_takeWhile_imp compared
    simp at other
  -- without a colon all of the host is there, and the percent sign of the bracket besides
  obtain ⟨more, whole⟩ := List.takeWhile_prefix (l := rest) (· != ']')
  have bracket : ('[' :: rest).takeWhile (· != ':') =
      '[' :: (rest.takeWhile (· != ']') ++ more.takeWhile (· != ':')) := by
    have inside : ∀ c ∈ rest.takeWhile (· != ']'), (c != ':') = true :=
      fun c member => bne_iff_ne.mpr fun equal => colon (equal ▸ member)
    have reached : rest.takeWhile (· != ':') =
        rest.takeWhile (· != ']') ++ more.takeWhile (· != ':') := by
      rw [← List.takeWhile_append_of_pos inside, whole]
    rw [List.takeWhile_cons, if_pos (by decide), reached]
  have signs := count_percent_percentEncode (show '%' ∈ targetCharacters by decide)
    (('[' :: rest).takeWhile (· != ':'))
  have equal := congrArg (List.count '%') same
  rw [count_percent_lowerHost, count_percent_lowerHost] at equal
  rw [equal, bracket, List.countP_cons_of_pos (by decide), List.count_cons_of_ne (by decide),
    List.count_append] at signs
  omega

/-- **A page of the web is not taken for one elsewhere on its own host**, nor where this counts as
the site's, exactly if its target leads there or to no page. Where the URL starts with its scheme
and its authority as they are read and the authority has no ampersand, this is so exactly if the
host is not in brackets and has nothing to escape. -/
theorem staysOwn_target_iff {u host : Text} {p : Parts} (read : Parts.parse u = .ok p)
    (web : p.scheme = "http" ∨ p.scheme = "https") (named : p.host? = some host) :
    (StaysOwn (target u) host ↔ lead (decodeEntities (target u)) = .nowhere ∨
      lead (decodeEntities (target u)) = .host host) ∧
    (p.Opens u → '&' ∉ p.authority →
      ('[' ∉ hostAndPort p.authority → (StaysOwn (target u) host ↔
        ∀ c ∈ writtenHost p.authority, standsForItself targetCharacters c = true)) ∧
      ((hostAndPort p.authority).head? = some '[' → ¬StaysOwn (target u) host)) := by
  obtain ⟨same, present, placed⟩ := host?_spec named
  have stays : StaysOwn (target u) host ↔ _ := staysOwn_iff present
  refine ⟨stays, fun opens plain => ?_⟩
  have leads : (hostAndPort p.authority).takeWhile (· != ':') ≠ [] →
      (StaysOwn (target u) host ↔ lowerHost (percentEncode targetCharacters
        ((hostAndPort p.authority).takeWhile (· != ':'))) = lowerHost (writtenHost p.authority)) := by
    intro written
    rw [stays, lead_target read web opens plain placed, Parts.host?_eq, writtenHost_target, ← same]
    simp [percentEncode_eq_nil_iff, written, Lead.ofHost]
  constructor
  · intro bare
    have whole := writtenHost_of_not_mem bare
    have written : writtenHost p.authority ≠ [] := by
      intro empty
      rw [same, empty] at present
      exact present rfl
    rw [leads (by rwa [← whole]), ← whole, lowerHost_target_iff]
  · intro bracket
    obtain ⟨rest, starts⟩ := List.head?_eq_some_iff.mp bracket
    have whole : writtenHost p.authority = rest.takeWhile (· != ']') := by
      unfold writtenHost
      rw [starts]
      rfl
    rw [leads (by rw [starts]; simp), whole, starts]
    exact lowerHost_target_of_bracket rest

/-- The page `HTTP://me@Example.com:80/ä?x` belongs to every site on `example.com`, its path
escaped. -/
theorem staysOwn_target_of_example :
    target "HTTP://me@Example.com:80/ä?x" = "HTTP://me@Example.com:80/%C3%A4?x" ∧
      StaysOwn (target "HTTP://me@Example.com:80/ä?x") "example.com" := by
  have read : Parts.parse "HTTP://me@Example.com:80/ä?x" = .ok {
      scheme := "http", authority := "me@Example.com:80", path := "/ä", query := "x" } := by
    decide +kernel
  have opens : Parts.Opens {
      scheme := "http", authority := "me@Example.com:80", path := "/ä", query := "x" }
      "HTTP://me@Example.com:80/ä?x" :=
    ⟨"HTTP", "/ä?x", by decide, by decide, by simp [endsAuthority]⟩
  have whole := staysOwn_target_iff read (.inl rfl)
    (show Parts.host? _ = some "example.com".toList by decide +kernel)
  exact ⟨by decide +kernel, ((whole.2 opens (by decide)).1 (by decide +kernel)).mpr
    (List.all_eq_true.mp (by decide +kernel))⟩

/-- A page of a site with an umlaut in its host is taken for a page elsewhere on that very site. -/
theorem isExternal_target_of_umlaut :
    ∃ p, Parts.parse "http://bücher.de/" = .ok p ∧ p.scheme = "http" ∧
      p.host? = some "bücher.de".toList ∧ siteHost? "http://bücher.de" = some "bücher.de".toList ∧
      target "http://bücher.de/" = "http://b%C3%BCcher.de/" ∧
      isExternal (target "http://bücher.de/") "http://bücher.de" [] = true :=
  ⟨{ scheme := "http", authority := "bücher.de", path := "/" }, by decide +kernel, rfl,
    by decide +kernel, by decide +kernel, by decide +kernel, by decide +kernel⟩

end MarkdownSite.Url
