import MarkdownSite.Proofs.Text.Escape
import MarkdownSite.Proofs.Text.Pieces
import MarkdownSite.Proofs.Url.Host
import MarkdownSite.Proofs.Url.Number

/-!
# Where encoded URLs lead

The `href` of a link is the URL of the document, encoded. Its path, query and fragment are written
with percent escapes again, but the authority stays as it was decoded, and a path may look like a
URL after it was decoded. The statement here says exactly which URLs lead elsewhere when they are
encoded, so that the link is taken for one into the site and leads out of it, or the other way
round.
-/

namespace MarkdownSite.Url

open Text

/-! ## What follows a path -/

/-- A query or a fragment that follows plays no part for the scheme. -/
theorem splitScheme_append_ending (t : Text) {rest : Text}
    (ends : ∀ c ∈ rest.head?, c = '?' ∨ c = '#') :
    splitScheme (t ++ rest) = ((splitScheme t).1, (splitScheme t).2 ++ rest) := by
  cases t with
  | nil =>
    rw [List.nil_append, splitScheme_of_head]
    · rfl
    · cases rest with
      | nil => rfl
      | cons c rest => rcases ends c rfl with rfl | rfl <;> rfl
  | cons c t =>
    cases found : splitFirst ":" (c :: t) with
    | some parts =>
      obtain ⟨scheme, after⟩ := parts
      have longer : splitFirst ":" (c :: (t ++ rest)) = some (scheme, after ++ rest) :=
        splitFirst_append_of_some found rest
      rw [List.cons_append]
      unfold splitScheme
      simp only [found, longer]
      split
      · rfl
      · rfl
    | none =>
      have longer : splitFirst ":" (c :: (t ++ rest)) =
          (splitFirst ":" rest).map fun parts => (c :: t ++ parts.1, parts.2) :=
        splitFirst_append_of_none found rest
      rw [List.cons_append]
      unfold splitScheme
      simp only [found, longer]
      cases later : splitFirst ":" rest with
      | none => rfl
      | some parts =>
        obtain ⟨before, after⟩ := parts
        -- what precedes the colon has the mark with which the query or the fragment starts
        have refused : List.all (c :: t ++ before) isSchemeChar = false := by
          have whole := eq_append_of_splitFirst later
          rw [List.all_append, Bool.and_eq_false_iff]
          refine .inr ?_
          cases before with
          | nil =>
            rw [whole] at ends
            rcases ends ':' rfl with colon | colon <;> cases colon
          | cons d before =>
            rw [whole] at ends
            rcases ends d rfl with rfl | rfl <;> rfl
        simp only [Option.map_some, refused, Bool.and_false, Bool.false_eq_true, ↓reduceIte]
        rfl

/-- Without two slashes no authority is split off. -/
theorem splitAuthority_of_not {t : Text} (other : ¬"//".toList <+: t) :
    splitAuthority t = ([], t) := by
  unfold splitAuthority
  split
  · rename_i rest
    exact absurd ⟨rest, rfl⟩ other
  · rfl

/-- A query or a fragment that follows plays no part for the authority. -/
theorem splitAuthority_append_ending (t : Text) {rest : Text}
    (ends : ∀ c ∈ rest.head?, c = '?' ∨ c = '#') :
    (splitAuthority (t ++ rest)).1 = (splitAuthority t).1 := by
  have apart : ∀ c ∈ rest.head?, c ∉ "//".toList := by
    intro c first
    rcases ends c first with rfl | rfl <;> decide
  by_cases slashes : "//".toList <+: t
  · obtain ⟨authority, rfl⟩ := slashes
    change ((authority ++ rest).takeWhile isInner) = authority.takeWhile isInner
    cases rest with
    | nil => rw [List.append_nil]
    | cons c rest =>
      refine takeWhile_append_cons ?_ authority rest
      rcases ends c rfl with rfl | rfl <;> decide
  · have longer : ¬"//".toList <+: t ++ rest := by
      rwa [isPrefix_append_iff apart]
    rw [splitAuthority_of_not slashes, splitAuthority_of_not longer]

/-- A query or a fragment that follows plays no part for how a text starts. -/
theorem start_append_ending {t rest : Text} (visible : ∀ c ∈ t, 32 < c.toNat)
    (ends : ∀ c ∈ rest.head?, c = '?' ∨ c = '#') : start (t ++ rest) = start t := by
  have head : ∀ c ∈ t.head?, 32 < c.toNat := fun c first => visible c (List.mem_of_mem_head? first)
  have whole : ∀ c ∈ (t ++ rest).head?, 32 < c.toNat := by
    intro c first
    cases t with
    | nil => rcases ends c first with rfl | rfl <;> decide
    | cons d t => exact head c first
  have kept : ∀ c ∈ (rest.filter isKept).head?, c = '?' ∨ c = '#' := by
    cases rest with
    | nil => simp
    | cons c rest =>
      have mark := ends c rfl
      have stays : isKept c = true := by rcases mark with rfl | rfl <;> rfl
      rw [List.filter_cons_of_pos stays]
      intro d first
      cases first
      exact mark
  unfold start
  rw [cleanUrl_of_head whole, cleanUrl_of_head head, List.filter_append,
    splitScheme_append_ending _ kept, splitAuthority_append_ending _ kept]

/-! ## Encoded parts -/

/-- An encoded part has neither controls nor spaces. -/
theorem visible_recode (t : Text) : ∀ c ∈ recode t, 32 < c.toNat :=
  fun _ member => lt_of_class (p := standsForItself safeCharacters) (by decide)
    (standsForItself_of_mem_percentEncode (by decide) member)

/-- A label that has an ASCII form has one that is not empty. -/
theorem encodeLabel_ne_nil {label encoded : Text} (done : encodeLabel label = .ok encoded) :
    encoded ≠ [] := by
  have checked {t : Text} (passed : checkLabelLength t = .ok encoded) : encoded ≠ [] := by
    unfold checkLabelLength at passed
    split at passed
    · rename_i length
      cases passed
      exact List.ne_nil_of_length_pos length.1
    · cases passed
  unfold encodeLabel at done
  split at done
  · exact checked done
  · cases prepared : prepareLabel label with
    | error e =>
      rw [prepared] at done
      cases done
    | ok folded =>
      rw [prepared] at done
      change (if isAscii folded then checkLabelLength folded
        else if startsWith "xn--" folded then throw .alreadyEncoded
        else checkLabelLength ("xn--" ++ Punycode.encode folded)) = .ok encoded at done
      split at done
      · exact checked done
      · split at done
        · cases done
        · exact checked done

/-- Labels that have ASCII forms have some that are not empty together. -/
theorem join_encodeLabel_ne_nil {labels encoded : List Text} (present : labels ≠ [])
    (done : labels.mapM encodeLabel = .ok encoded) : join "." encoded ≠ [] := by
  obtain ⟨label, others, rfl⟩ := List.exists_cons_of_ne_nil present
  rw [List.mapM_cons] at done
  cases first : encodeLabel label with
  | error e =>
    rw [first] at done
    cases done
  | ok head =>
    cases rest : others.mapM encodeLabel with
    | error e =>
      rw [first, rest] at done
      cases done
    | ok tail =>
      rw [first, rest] at done
      cases done
      have written := encodeLabel_ne_nil first
      cases tail with
      | nil => exact written
      | cons next tail => simp [join, written]

/-- A host name that has an ASCII form has one that is not empty. -/
theorem encodeHostName_ne_nil {host encoded : Text} (done : encodeHostName host = .ok encoded) :
    encoded ≠ [] := by
  unfold encodeHostName at done
  dsimp only at done
  cases trailing : (splitWhere isLabelDot host).getLast? == some [] with
  | true =>
    rw [trailing] at done
    cases labels : ((splitWhere isLabelDot host).dropLast).mapM encodeLabel with
    | error e =>
      simp only [↓reduceIte, labels] at done
      cases done
    | ok names =>
      simp only [↓reduceIte, labels] at done
      cases done
      simp
  | false =>
    rw [trailing] at done
    cases labels : (splitWhere isLabelDot host).mapM encodeLabel with
    | error e =>
      simp only [Bool.false_eq_true, ↓reduceIte, labels] at done
      cases done
    | ok names =>
      have written := join_encodeLabel_ne_nil (splitWhere_ne_nil _ _) labels
      simp only [Bool.false_eq_true, ↓reduceIte, labels] at done
      cases done
      rwa [List.append_nil]

/-- An authority that is encoded is not empty. -/
theorem encodeAuthority_ne_nil {authority encoded : Text} (present : authority ≠ [])
    (done : encodeAuthority authority = .ok encoded) : encoded ≠ [] := by
  unfold encodeAuthority at done
  dsimp only at done
  split at done
  · cases done
    exact present
  · split at done
    · cases done
      exact present
    · split at done
      · rename_i name named
        cases done
        simp [encodeHostName_ne_nil named]
      · cases done

/-! ## Where an encoded URL leads -/

/-- A URL that is put together again leads where its scheme and its authority lead, if it has an
authority or its scheme wants one. -/
theorem lead_toText {p : Parts} (valid : IsScheme p.scheme)
    (hierarchical : p.authority ≠ [] ∨ hierarchicalSchemes.contains p.scheme = true) :
    lead p.toText = lead (origin p.scheme p.authority) := by
  obtain ⟨rest, whole, ends⟩ := toText_eq_origin hierarchical
  unfold lead
  rw [whole, start_origin_append valid _ ends]

/-- Schemes that want no authority lead to no page. -/
theorem leadOf_eq_nowhere {scheme : Text} (present : scheme ≠ [])
    (other : hierarchicalSchemes.contains scheme = false) (authority : Text) :
    leadOf scheme authority = .nowhere := by
  have http : scheme ≠ "http" := by
    intro same
    rw [same] at other
    exact absurd other (by decide)
  have https : scheme ≠ "https" := by
    intro same
    rw [same] at other
    exact absurd other (by decide)
  unfold leadOf
  simp only [List.isEmpty_eq_false_iff.mpr present, beq_false_of_ne http, beq_false_of_ne https,
    Bool.or_self, Bool.false_eq_true, ↓reduceIte, ite_self]

/-- A URL with a scheme that wants no authority leads to no page when it is put together again. -/
theorem lead_toText_eq_nowhere {p : Parts} (valid : IsScheme p.scheme) (present : p.scheme ≠ [])
    (other : hierarchicalSchemes.contains p.scheme = false) : lead p.toText = .nowhere := by
  obtain ⟨tail, whole⟩ := Parts.toText_scheme present
  have scheme : (start p.toText).1 = p.scheme := by
    unfold start
    rw [whole, cleanUrl_scheme valid present, splitScheme_append valid present]
  rw [lead, scheme, leadOf_eq_nowhere present other]

/-- A path that is put together again as it is leads where it leads by itself. -/
theorem lead_path {p : Parts} (schemeless : p.scheme = []) (hostless : p.authority = [])
    (visible : ∀ c ∈ p.path, 32 < c.toNat) :
    lead p.toText = if startsWith "//" p.path then .sameSite else lead p.path := by
  have relative : hierarchicalSchemes.contains ([] : Text) = false := by decide
  cases slashes : startsWith "//" p.path with
  | true =>
    have whole := toText_placed (.inr (.inr slashes))
    rw [schemeless, hostless] at whole
    have ends := p.endsAuthority_of_head?
    unfold lead
    rw [whole, start_origin_append (.inl rfl) _ ends, start_origin_of_read (.inl rfl) (by simp)]
    rfl
  | false =>
    have whole := toText_bare hostless (by rw [schemeless]; exact relative) slashes
    rw [schemeless, List.isEmpty_nil, if_pos rfl, List.nil_append] at whole
    unfold lead
    rw [whole, start_append_ending visible p.head?_ending]
    rfl

/-- The parts of a URL lead where they led when they are encoded: with an authority, if this still
leads there after its escapes are decoded; without one, if the path, its escapes decoded and written
again, is not taken for a URL of its own. -/
def Parts.KeepsLead (p : Parts) : Prop :=
  if p.authority = [] then
    p.scheme = [] → startsWith "//" (recode p.path) = false → lead (recode p.path) = .sameSite
  else
    ∀ authority, encodeAuthority (percentDecode p.authority) = .ok authority →
      lead (origin p.scheme authority) = lead (origin p.scheme p.authority)

/-- An encoded URL leads where the URL led exactly if its parts do. -/
theorem lead_encodeParts_iff {url encoded : Text} {p : Parts}
    (parsed : Parts.parse (decodeEntities url) = .ok p) (done : encodeParts url = .ok encoded) :
    lead (decodeEntities url) = lead encoded ↔ p.KeepsLead := by
  obtain ⟨authority, given, rfl⟩ := encodeParts_eq_ok parsed done
  have valid : IsScheme p.scheme := by
    rw [(parse_eq_ok parsed).1]
    exact isScheme_splitScheme _
  have read : lead (origin p.scheme p.authority) = leadOf p.scheme p.authority := by
    rw [lead, start_origin_of_read valid (inner_of_parse parsed)]
  rw [lead_of_parse parsed, ← read]
  unfold Parts.KeepsLead
  rcases given with ⟨none, rfl⟩ | ⟨present, written⟩
  · rw [if_pos none]
    let bare : Parts := {
      scheme := p.scheme
      path := recode p.path
      query := recode p.query
      fragment := recode p.fragment }
    change lead _ = lead bare.toText ↔ _
    by_cases schemeless : p.scheme = []
    · have site : lead (origin p.scheme p.authority) = .sameSite := by
        rw [read, schemeless, none]
        decide +kernel
      rw [site, lead_path (p := bare) schemeless rfl (visible_recode p.path)]
      change Lead.sameSite =
        (if startsWith "//" (recode p.path) then .sameSite else lead (recode p.path)) ↔ _
      cases startsWith "//" (recode p.path) with
      | true => simp
      | false => simp [schemeless, eq_comm]
    · refine iff_of_true ?_ fun empty => absurd empty schemeless
      cases hierarchical : hierarchicalSchemes.contains p.scheme with
      | true => rw [lead_toText (p := bare) valid (.inr hierarchical), none]
      | false =>
        rw [lead_toText_eq_nowhere (p := bare) valid schemeless hierarchical, read,
          leadOf_eq_nowhere schemeless hierarchical]
  · rw [if_neg present]
    let moved : Parts := {
      scheme := p.scheme
      authority
      path := recode p.path
      query := recode p.query
      fragment := recode p.fragment }
    have nonempty := encodeAuthority_ne_nil (percentDecodeFrom_ne_nil (.inr present)) written
    change lead _ = lead moved.toText ↔ _
    rw [lead_toText (p := moved) valid (.inl nonempty)]
    constructor
    · intro same other encoded
      cases written.symm.trans encoded
      exact same.symm
    · intro kept
      exact (kept authority written).symm

/-- An ASCII authority is encoded as it is. -/
theorem encodeAuthority_of_ascii {authority : Text} (ascii : isAscii authority = true) :
    encodeAuthority authority = .ok authority := by
  have host : isAscii ((hostAndPort authority).takeWhile (· != ':')) = true := by
    refine List.all_eq_true.mpr fun c member => List.all_eq_true.mp ascii c ?_
    exact (hostAndPort_spec authority).2.mem ((List.takeWhile_prefix _).mem member)
  unfold encodeAuthority
  simp only [host, ↓reduceIte, ite_self]

/-- A URL whose authority is ASCII and has no percent escapes leads where it led when it is
encoded. -/
theorem Parts.keepsLead_of_plain {p : Parts} (present : p.authority ≠ [])
    (ascii : isAscii p.authority = true) (plain : '%' ∉ p.authority) : p.KeepsLead := by
  unfold KeepsLead
  rw [if_neg present, percentDecode_of_not_mem plain, encodeAuthority_of_ascii ascii]
  intro authority same
  rw [Except.ok.inj same]

/-- A URL that is encoded for an attribute is one that is encoded, escaped. -/
theorem exists_encodeParts {url written : Text} (done : encode? url = .ok written) :
    ∃ encoded, encodeParts url = .ok encoded ∧ decodeEntities written = encoded := by
  rcases encode?_cases url with ⟨encoded, -, parts, escaped, -⟩ | ⟨e, refused, -⟩
  · cases done.symm.trans escaped
    exact ⟨encoded, parts, decodeEntities_escapeAttribute encoded⟩
  · cases done.symm.trans refused

/-- **A link and the `href` that is written for it lead out of the same sites** exactly if the parts
of its URL lead where they led when they are encoded; so does the `href` with its references decoded
once more, where that changes nothing. -/
theorem isExternal_encode_iff {url written : Text} {p : Parts}
    (parsed : Parts.parse (decodeEntities url) = .ok p) (done : encode? url = .ok written) :
    ((∀ siteUrl exclude,
        isExternal url siteUrl exclude = isExternal written siteUrl exclude) ↔ p.KeepsLead) ∧
      (decodeEntities (decodeEntities written) = decodeEntities written →
        ((∀ siteUrl exclude, isExternal url siteUrl exclude =
          isExternal (decodeEntities written) siteUrl exclude) ↔ p.KeepsLead)) := by
  obtain ⟨encoded, parts, plain⟩ := exists_encodeParts done
  have leads (other : Text) (same : decodeEntities other = encoded) :
      (∀ siteUrl exclude, isExternal url siteUrl exclude = isExternal other siteUrl exclude) ↔
        p.KeepsLead := by
    rw [← lead_encodeParts_iff parsed parts, ← Lead.forall_isExternal_iff]
    simp only [isExternal_eq, same]
  refine ⟨leads written plain, fun stable => leads (decodeEntities written) ?_⟩
  rw [stable, plain]

/-- A slash that is decoded ends the authority of the `href`, which leads to a host of which the
link says nothing. -/
theorem encode_moves_authority :
    let url : Text := "http://evil.com%2F@example.com/"
    encode? url = .ok "http://evil.com/@example.com/" ∧
      isExternal url "http://example.com" [] = false ∧
      isExternal (decodeEntities (encode url)) "http://example.com" [] = true := by
  decide +kernel

/-- A page on another host whose path has to be encoded. -/
theorem isExternal_encode_of_host :
    let url : Text := "http://bar.com/café"
    let written : Text := "http://bar.com/caf%C3%A9"
    encode? url = .ok written ∧
      ∀ siteUrl exclude, isExternal url siteUrl exclude = isExternal written siteUrl exclude := by
  intro url written
  have parsed : Parts.parse (decodeEntities url) =
      .ok { scheme := "http", authority := "bar.com", path := "/café" } := by
    decide +kernel
  have done : encode? url = .ok written := by
    decide +kernel
  have kept : Parts.KeepsLead { scheme := "http", authority := "bar.com", path := "/café" } :=
    Parts.keepsLead_of_plain (by decide) (by decide) (by decide)
  exact ⟨done, (isExternal_encode_iff parsed done).1.mpr kept⟩

end MarkdownSite.Url
