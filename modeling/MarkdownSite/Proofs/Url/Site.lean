import MarkdownSite.Proofs.Url.Host

/-!
# Links out of a site

Whether a link leads out of a site is found by resolving it against an address that is made of the
host of the site. The statement here says for which sites this finds what the link says by itself:
the links out of the site are those with an authority whose host is neither the site's nor counts as
such. A host that was written in brackets loses them in that address, and is read as another one, or
not at all, where it has a colon or a bracket.
-/

namespace MarkdownSite.Url

open Text

/-! ## What a link says by itself -/

/-- Whether a host is among those that are given. -/
def ExcludedHosts.Has (host : Text) : ExcludedHosts → Prop
  | none => False
  | one other => host = other
  | several hosts => host ∈ hosts

/-- Whether a text names a page of the web, or one without a scheme, on a host that is neither a
given one nor excluded. -/
def NamesForeignHost (own : Text) (exclude : ExcludedHosts) (t : Text) : Prop :=
  ∃ p host, Parts.parse t = .ok p ∧
    (p.scheme = [] ∨ p.scheme = "http" ∨ p.scheme = "https") ∧
    p.authority ≠ [] ∧ p.host? = some host ∧ host ≠ own ∧ ¬exclude.Has host

/-- A host is one of those that are given if it is in their list. -/
theorem ExcludedHosts.mem_toList {host : Text} (present : host ≠ []) (exclude : ExcludedHosts) :
    host ∈ exclude.toList ↔ exclude.Has host := by
  cases exclude with
  | none => simp [toList, Has]
  | several hosts => exact Iff.rfl
  | one other =>
    cases other with
    | nil => simpa [toList, Has] using present
    | cons c rest => simp [toList, Has]

/-- What leads to a host is a page of the web, or one without a scheme, with an authority that has
this host. -/
theorem lead_eq_host_iff {t name : Text} :
    lead t = .host name ↔ ∃ p, Parts.parse t = .ok p ∧
      (p.scheme = [] ∨ p.scheme = "http" ∨ p.scheme = "https") ∧
      p.authority ≠ [] ∧ p.host? = some name := by
  have ofHost (host : Option Text) : Lead.ofHost host = .host name ↔ host = some name := by
    cases host <;> simp [Lead.ofHost]
  rcases parse_cases t with ⟨-, p, read, -⟩ | ⟨unreadable, e, refused⟩
  · have readable := (start_of_parse read).2
    have only : (∃ q, Parts.parse t = .ok q ∧
        (q.scheme = [] ∨ q.scheme = "http" ∨ q.scheme = "https") ∧
        q.authority ≠ [] ∧ q.host? = some name) ↔
        (p.scheme = [] ∨ p.scheme = "http" ∨ p.scheme = "https") ∧
          p.authority ≠ [] ∧ p.host? = some name := by
      simp [read]
    have host : Parts.host? { authority := p.authority } = p.host? := rfl
    rw [only, lead_of_parse read, leadOf]
    simp only [readable, host, Bool.not_true, Bool.false_eq_true, ↓reduceIte]
    by_cases relative : p.scheme = [] ∨ p.scheme = "http"
    · have written : (p.scheme.isEmpty || p.scheme == "http".toList) = true := by
        simpa using relative
      rw [if_pos written]
      by_cases absent : p.authority = []
      · simp [absent]
      · simp only [List.isEmpty_iff, absent, ↓reduceIte, ofHost]
        exact ⟨fun named => ⟨relative.imp_right .inl, absent, named⟩, fun named => named.2.2⟩
    · have other : (p.scheme.isEmpty || p.scheme == "http".toList) = false := by
        simpa using relative
      rw [if_neg (by rw [other]; exact Bool.false_ne_true)]
      by_cases https : p.scheme = "https"
      · rw [if_pos (by simpa using https), ofHost]
        exact ⟨fun named => ⟨.inr (.inr https), (host?_spec named).2.2, named⟩,
          fun named => named.2.2⟩
      · rw [if_neg (by simpa using https)]
        refine iff_of_false nofun fun named => ?_
        rcases named.1 with none | http | secure
        · exact relative (.inl none)
        · exact relative (.inr http)
        · exact https secure
  · have nowhere : lead t = .nowhere := by
      unfold lead leadOf
      rw [unreadable]
      rfl
    rw [nowhere]
    refine iff_of_false nofun ?_
    rintro ⟨p, read, -⟩
    rw [refused] at read
    cases read

/-- What leads to a foreign host names one. -/
theorem isForeign_lead_iff (own : Text) (exclude : ExcludedHosts) (t : Text) :
    (lead t).isForeign own exclude.toList = true ↔ NamesForeignHost own exclude t := by
  have reads : NamesForeignHost own exclude t ↔
      ∃ name, lead t = .host name ∧ name ≠ own ∧ ¬exclude.Has name := by
    simp only [lead_eq_host_iff]
    constructor
    · rintro ⟨p, name, read, web, placed, named, foreign⟩
      exact ⟨name, ⟨p, read, web, placed, named⟩, foreign⟩
    · rintro ⟨name, ⟨p, read, web, placed, named⟩, foreign⟩
      exact ⟨p, name, read, web, placed, named, foreign⟩
  rw [reads]
  cases leads : lead t with
  | nowhere => simp [Lead.isForeign]
  | sameSite => simp [Lead.isForeign]
  | host name =>
    obtain ⟨p, -, -, -, named⟩ := lead_eq_host_iff.mp leads
    have listed := exclude.mem_toList (host?_spec named).2.1
    simp [Lead.isForeign, listed, and_comm]

/-! ## The address of a site -/

/-- Whether a host can stand in an address without brackets: it has none itself, and a colon only
where it starts with one, so that the address has no host. -/
def StandsBare (host : Text) : Prop :=
  '[' ∉ host ∧ ']' ∉ host ∧ (':' ∈ host → host.head? = some ':')

section Address

variable {siteUrl own : Text}

/-- The host of a site, if it is ASCII, has no mark that ends an authority or its user, not both
brackets, and is compared as what it is. -/
theorem siteHost_spec (site : siteHost? siteUrl = some own) (ascii : isAscii own = true) :
    (∀ c ∈ own, isInner c = true ∧ isKept c = true) ∧ '@' ∉ own ∧ ('[' ∉ own ∨ ']' ∉ own) ∧
      lowerHost own = own := by
  obtain ⟨p, read, named⟩ : ∃ p, Parts.parse siteUrl = .ok p ∧ p.host? = some own := by
    unfold siteHost? at site
    split at site
    · cases site
    · split at site
      · rename_i p read
        exact ⟨p, read, site⟩
      · cases site
  obtain ⟨same, -, -⟩ := host?_spec named
  have mark {c : Char} (narrow : c.toNat < 128) (other : c.isAlpha = false) (member : c ∈ own) :
      c ∈ writtenHost p.authority := by
    rw [same] at member
    exact (mem_lowerHost_iff narrow other).mp member
  obtain ⟨inside, brackets⟩ := writtenHost_spec p.authority
  obtain ⟨bare, suffix⟩ := hostAndPort_spec p.authority
  refine ⟨fun c member => ?_, fun member => ?_, ?_, ?_⟩
  · cases letter : c.isAlpha with
    | true =>
      have apart {d : Char} (mark : d.isAlpha = false) : c ≠ d := by
        rintro rfl
        rw [letter] at mark
        cases mark
      refine ⟨?_, isKept_of_lt (lt_of_class (by decide) letter)⟩
      simp [isInner, endsAuthority, apart]
    | false =>
      have narrow : c.toNat < 128 := by simpa using List.all_eq_true.mp ascii c member
      exact inner_of_parse read c (suffix.subset (inside c (mark narrow letter member)))
  · exact bare (inside '@' (mark (by decide) (by decide) member))
  · exact brackets.imp (fun absent member => absent (mark (by decide) (by decide) member))
      fun absent member => absent (mark (by decide) (by decide) member)
  · rw [same] at ascii
    rw [same, lowerHost_lowerHost ascii]

/-- The address of a host starts with it. -/
theorem start_address (inner : ∀ c ∈ own, isInner c = true ∧ isKept c = true) :
    start ("http://" ++ own ++ "/") = ("http".toList, own) := by
  have valid : IsScheme "http" := .inr (by decide)
  have whole : "http://" ++ own ++ "/" = origin "http" own ++ "/".toList := by simp [origin]
  rw [whole, start_origin_append valid _ (by simp [endsAuthority]),
    start_origin_of_read valid inner]

/-- An ASCII host that has not both brackets can be read as an authority if it has none. -/
theorem isReadable_iff (ascii : isAscii own = true) (brackets : '[' ∉ own ∨ ']' ∉ own) :
    isReadable own = true ↔ '[' ∉ own ∧ ']' ∉ own := by
  have lookalikes : checkLookalikes own = .ok () := by
    have wide : ∀ n ∈ delimiterLookalikes, ¬n < 128 := by decide
    refine if_neg fun found => ?_
    obtain ⟨c, member, listed⟩ := List.any_eq_true.mp found
    exact wide c.toNat (List.contains_iff_mem.mp listed)
      (by simpa using List.all_eq_true.mp ascii c member)
  unfold isReadable checkBrackets
  rw [lookalikes]
  by_cases opening : '[' ∈ own
  · have closing : ']' ∉ own := brackets.resolve_left (not_not_intro opening)
    simp [opening, closing, Except.isOk, Except.toBool]
  · by_cases closing : ']' ∈ own
    · simp [opening, closing, Except.isOk, Except.toBool]
    · simp [opening, closing, splitFirst_eq_none opening, Except.isOk, Except.toBool]

/-- Without a bracket the address of a site is read as one with the host of the site as its
authority, up to a colon. -/
theorem parse_address (site : siteHost? siteUrl = some own) (ascii : isAscii own = true)
    (unbracketed : '[' ∉ own ∧ ']' ∉ own) :
    ∃ b, Parts.parse ("http://" ++ own ++ "/") = .ok b ∧
      writtenHost b.authority = own.takeWhile (· != ':') := by
  obtain ⟨inner, userless, brackets, -⟩ := siteHost_spec site ascii
  have started := start_address inner
  rcases parse_cases ("http://" ++ own ++ "/") with ⟨-, b, read, -, authority⟩ | ⟨unreadable, -⟩
  · refine ⟨b, read, ?_⟩
    have whole := hostAndPort_of_not_mem userless
    rw [authority, started, writtenHost_of_not_mem (by rw [whole]; exact unbracketed.1), whole]
  · rw [started] at unreadable
    rw [(isReadable_iff ascii brackets).mpr unbracketed] at unreadable
    cases unreadable

/-- Out of a site whose host can stand without brackets lead the foreign hosts. -/
theorem isExternal_of_standsBare (site : siteHost? siteUrl = some own) (ascii : isAscii own = true)
    (bare : StandsBare own) (leads : Lead) (exclude : List Text) :
    leads.isExternal siteUrl exclude = leads.isForeign own exclude := by
  obtain ⟨-, -, -, compared⟩ := siteHost_spec site ascii
  obtain ⟨opening, closing, colon⟩ := bare
  obtain ⟨b, read, written⟩ := parse_address site ascii ⟨opening, closing⟩
  have page : b.host? = some own ∨ b.host? = none := by
    rw [Parts.host?_eq, written]
    by_cases inside : ':' ∈ own
    · obtain ⟨rest, starts⟩ := List.head?_eq_some_iff.mp (colon inside)
      rw [starts]
      exact .inr rfl
    · rw [takeWhile_bne inside, compared]
      split
      · exact .inr rfl
      · exact .inl rfl
  rcases page with page | page
  · exact Lead.isExternal_eq_isForeign site read page leads exclude
  · unfold Lead.isExternal
    simp only [site, read]
    cases leads with
    | nowhere => rfl
    | sameSite =>
      simp only [Lead.host?, page]
      rfl
    | host name => rfl

/-- Out of a site whose host has a bracket no link leads. -/
theorem isExternal_of_bracket (site : siteHost? siteUrl = some own) (ascii : isAscii own = true)
    (bracketed : ¬('[' ∉ own ∧ ']' ∉ own)) (leads : Lead) (exclude : List Text) :
    leads.isExternal siteUrl exclude = false := by
  obtain ⟨inner, -, brackets, -⟩ := siteHost_spec site ascii
  have unreadable : isReadable (start ("http://" ++ own ++ "/")).2 ≠ true := by
    rw [start_address inner]
    exact bracketed ∘ (isReadable_iff ascii brackets).mp
  rcases parse_cases ("http://" ++ own ++ "/") with ⟨readable, -⟩ | ⟨-, e, refused⟩
  · exact absurd readable unreadable
  · unfold Lead.isExternal
    simp only [site, refused]

/-- Out of a site whose host has a colon, and does not start with one, lead the links to the site
itself, unless the part before the colon is excluded. -/
theorem isExternal_of_colon (site : siteHost? siteUrl = some own) (ascii : isAscii own = true)
    (unbracketed : '[' ∉ own ∧ ']' ∉ own) (colon : ':' ∈ own) (within : own.head? ≠ some ':')
    {exclude : List Text} (unlisted : lowerHost (own.takeWhile (· != ':')) ∉ exclude) :
    Lead.sameSite.isExternal siteUrl exclude = true := by
  obtain ⟨b, read, written⟩ := parse_address site ascii unbracketed
  have present : own.takeWhile (· != ':') ≠ [] := by
    cases own with
    | nil => cases colon
    | cons c rest =>
      have first : (c != ':') = true := by simpa using within
      simp [first]
  have other : lowerHost (own.takeWhile (· != ':')) ≠ own := by
    intro same
    rw [← same] at colon
    have inside := List.mem_takeWhile_imp ((mem_lowerHost_iff (by decide) (by decide)).mp colon)
    simp at inside
  unfold Lead.isExternal
  simp only [site, read]
  simp [Lead.host?, Parts.host?_eq, written, present, other, unlisted]

end Address

/-! ## Links out of a site -/

/-- **The links out of a site are those that name a foreign host by themselves**, whatever hosts are
excluded, exactly if the host of the site, where it is ASCII, can stand in an address without
brackets. -/
theorem isExternal_iff_namesForeignHost {siteUrl : Text}
    (ascii : ∀ own, siteHost? siteUrl = some own → isAscii own = true) :
    (∀ url exclude, isExternal url siteUrl (ExcludedHosts.toList exclude) = true ↔
        ∃ own, siteHost? siteUrl = some own ∧ NamesForeignHost own exclude (decodeEntities url)) ↔
      ∀ own, siteHost? siteUrl = some own → StandsBare own := by
  cases site : siteHost? siteUrl with
  | none =>
    refine iff_of_true (fun url exclude => ?_) nofun
    have inside : isExternal url siteUrl exclude.toList = false := by
      unfold isExternal
      rw [site]
    rw [inside]
    simp
  | some own =>
    have narrow := ascii own site
    have foreign (exclude : ExcludedHosts) (t : Text) :
        (∃ host, some own = some host ∧ NamesForeignHost host exclude t) ↔
          (lead t).isForeign own exclude.toList = true := by
      rw [isForeign_lead_iff]
      simp
    simp only [foreign, isExternal_eq]
    constructor
    · intro same host whole
      cases Option.some.inj whole
      by_contra other
      by_cases unbracketed : '[' ∉ own ∧ ']' ∉ own
      · have colon : ':' ∈ own ∧ own.head? ≠ some ':' := by
          by_contra plain
          refine other ⟨unbracketed.1, unbracketed.2, fun inside => ?_⟩
          by_contra within
          exact plain ⟨inside, within⟩
        -- the empty link names no host, and is resolved to the address of the site
        have away := isExternal_of_colon site narrow unbracketed colon.1 colon.2
          List.not_mem_nil
        cases (same [] .none).mp away
      · have elsewhere : own ≠ "a" := by
          rintro rfl
          exact unbracketed (by decide)
        have leads : lead (decodeEntities "http://a") = .host "a" := by decide +kernel
        have away := same "http://a" .none
        rw [leads, isExternal_of_bracket site narrow unbracketed] at away
        have named := away.mpr (by simpa [Lead.isForeign, ExcludedHosts.toList] using Ne.symm elsewhere)
        cases named
    · intro bare url exclude
      rw [isExternal_of_standsBare site narrow (bare own rfl)]

/-- A site with a user, a port and capitals in its host: the links out of it are those to a host that
is spelled differently in lower case, and not excluded. -/
theorem isExternal_iff_of_example :
    siteHost? "http://me@Example.com:80/blog" = some "example.com" ∧
      ∀ url exclude,
        isExternal url "http://me@Example.com:80/blog" (ExcludedHosts.toList exclude) = true ↔
          NamesForeignHost "example.com" exclude (decodeEntities url) := by
  have site : siteHost? "http://me@Example.com:80/blog" = some "example.com" := by decide +kernel
  have only {own : Text} (named : siteHost? "http://me@Example.com:80/blog" = some own) :
      own = "example.com" := Option.some.inj (named.symm.trans site)
  have ascii : ∀ own, siteHost? "http://me@Example.com:80/blog" = some own → isAscii own = true := by
    intro own named
    rw [only named]
    decide
  have bare : ∀ own, siteHost? "http://me@Example.com:80/blog" = some own → StandsBare own := by
    intro own named
    rw [only named]
    exact ⟨by decide, by decide, fun colon => absurd colon (by decide)⟩
  refine ⟨site, fun url exclude => ?_⟩
  rw [(isExternal_iff_namesForeignHost ascii).mpr bare url exclude, site]
  simp

/-- On a site whose address is numeric even a path leads out, and names no host. -/
theorem isExternal_path_of_numeric_site :
    isExternal "/about/" "http://[2001:db8::1]/" [] = true ∧
      ∃ own : Text, siteHost? "http://[2001:db8::1]/" = some own ∧ isAscii own = true ∧
        ¬NamesForeignHost own .none (decodeEntities "/about/") := by
  refine ⟨by decide +kernel, "2001:db8::1", by decide +kernel, by decide, ?_⟩
  rw [← isForeign_lead_iff]
  decide +kernel

end MarkdownSite.Url
