import MarkdownSite.Proofs.Url.Printable
import MarkdownSite.Url.CodePoint

/-!
# Surrogates in URLs

A string without surrogates is encoded as the text that it is. A surrogate stays where references
and escapes are decoded and where a URL is taken apart, so that without an authority it comes into a
part that cannot be encoded.
-/

namespace MarkdownSite.Url.CodePoints

open Text

/-! ## Strings and texts -/

/-- Characters are the same as code points exactly if they are the same. -/
theorem char_bne (c d : Char) : (CodePoint.char c != CodePoint.char d) = (c != d) := by
  rw [Bool.eq_iff_iff, bne_iff_ne, bne_iff_ne, ne_eq, CodePoint.char.injEq]

section OfText

variable (s t : Text) (n : Nat) (mark : Char)

/-- The shadow of a text is the text. -/
@[simp] theorem shadow_ofText : shadow (ofText t) = t := by
  simp [shadow, ofText, Function.comp_def, CodePoint.shadow]

/-- A text has as many code points as characters. -/
@[simp] theorem length_ofText : (ofText t).length = t.length := List.length_map _

/-- Texts one after another are a text. -/
@[simp] theorem ofText_append : ofText s ++ ofText t = ofText (s ++ t) := List.map_append.symm

/-- The first code points of a text are its first characters. -/
@[simp] theorem take_ofText : (ofText t).take n = ofText (t.take n) := List.map_take.symm

/-- The code points after the first ones of a text are the characters after these. -/
@[simp] theorem drop_ofText : (ofText t).drop n = ofText (t.drop n) := List.map_drop.symm

/-- What precedes a mark in a text precedes it in the string. -/
@[simp] theorem takeWhile_ofText :
    (ofText t).takeWhile (· != .char mark) = ofText (t.takeWhile (· != mark)) := by
  unfold ofText
  rw [List.takeWhile_map]
  simp only [Function.comp_def, char_bne]

/-- What a mark starts in a text it starts in the string. -/
@[simp] theorem dropWhile_ofText :
    (ofText t).dropWhile (· != .char mark) = ofText (t.dropWhile (· != mark)) := by
  unfold ofText
  rw [List.dropWhile_map]
  simp only [Function.comp_def, char_bne]

end OfText

/-- A text is read from its string. -/
@[simp] theorem toText?_ofText (t : Text) : toText? (ofText t) = some t := by
  induction t with
  | nil => rfl
  | cons c t ih =>
    change (toText? (ofText t)).map (c :: ·) = _
    rw [ih, Option.map_some]

/-- A string is a text, or it has a surrogate. -/
theorem eq_ofText_or_surrogate_mem (t : CodePoints) :
    (∃ u, t = ofText u) ∨ ∃ index, .surrogate index ∈ t := by
  induction t with
  | nil => exact .inl ⟨[], rfl⟩
  | cons point t ih =>
    cases point with
    | surrogate index => exact .inr ⟨index, List.mem_cons_self⟩
    | char c =>
      rcases ih with ⟨u, rfl⟩ | ⟨index, member⟩
      · exact .inl ⟨c :: u, rfl⟩
      · exact .inr ⟨index, List.mem_cons_of_mem _ member⟩

/-- A text has no surrogate. -/
theorem surrogate_not_mem_ofText (index : Fin 2048) (t : Text) :
    CodePoint.surrogate index ∉ ofText t := by
  simp [ofText]

/-- A string with a surrogate is no text. -/
theorem toText?_of_surrogate {t : CodePoints} {index : Fin 2048}
    (member : .surrogate index ∈ t) : toText? t = none := by
  induction t with
  | nil => cases member
  | cons point t ih =>
    cases point with
    | surrogate other => rfl
    | char c =>
      rw [toText?, ih ((List.mem_cons.mp member).resolve_left nofun), Option.map_none]

/-! ## Runs of characters -/

/-- A text is one run. -/
theorem mapRunsFrom_ofText (f : Text → Text) (run t : Text) :
    mapRunsFrom f run (ofText t) = ofText (f (run ++ t)) := by
  induction t generalizing run with
  | nil => rw [List.append_nil]; rfl
  | cons c t ih =>
    have further := ih (run ++ [c])
    rw [List.append_assoc] at further
    exact further

/-- A text is one run. -/
@[simp] theorem mapRuns_ofText (f : Text → Text) (t : Text) :
    mapRuns f (ofText t) = ofText (f t) :=
  mapRunsFrom_ofText f [] t

/-- Surrogates stay between the runs. -/
theorem surrogate_mem_mapRuns {index : Fin 2048} (f : Text → Text) {t : CodePoints}
    (member : .surrogate index ∈ t) : .surrogate index ∈ mapRuns f t := by
  suffices ∀ run, .surrogate index ∈ mapRunsFrom f run t from this []
  induction t with
  | nil => cases member
  | cons point t ih =>
    intro run
    cases point with
    | char c => exact ih ((List.mem_cons.mp member).resolve_left nofun) (run ++ [c])
    | surrogate other =>
      rw [mapRunsFrom, List.mem_append, List.mem_cons]
      rcases List.mem_cons.mp member with same | later
      · exact .inr (.inl same)
      · exact .inr (.inr (ih later []))

/-! ## Texts taken apart -/

/-- A text is cleaned as a string. -/
theorem clean_ofText (t : Text) : clean (ofText t) = ofText (cleanUrl t) := by
  simp only [clean, cleanUrl, ofText, List.dropWhile_map, List.filter_map]
  rfl

/-- The scheme and the colon are a beginning of letters, digits and a few marks. -/
theorem splitScheme_spec (t : Text) :
    ∃ before, t = before ++ (Url.splitScheme t).2 ∧
      ∀ c ∈ before, isSchemeChar c = true ∨ c = ':' := by
  unfold Url.splitScheme
  split
  · split
    · rename_i scheme after found
      split
      · rename_i letters
        rw [Bool.and_eq_true, List.all_eq_true] at letters
        refine ⟨scheme ++ [':'], eq_append_of_splitFirst found, fun c member => ?_⟩
        rcases List.mem_append.mp member with named | colon
        · exact .inl (letters.2 c named)
        · exact .inr (List.mem_singleton.mp colon)
      · exact ⟨[], rfl, nofun⟩
    · exact ⟨[], rfl, nofun⟩
  · exact ⟨[], rfl, nofun⟩

/-- A scheme is split off a text as off a string. -/
theorem splitScheme_ofText (t : Text) :
    splitScheme (ofText t) = ((Url.splitScheme t).1, ofText (Url.splitScheme t).2) := by
  obtain ⟨before, whole, -⟩ := splitScheme_spec t
  have left : t.drop (t.length - (Url.splitScheme t).2.length) = (Url.splitScheme t).2 :=
    (List.suffix_iff_eq_drop.mp ⟨before, whole.symm⟩).symm
  unfold splitScheme
  simp only [shadow_ofText, length_ofText, drop_ofText, left]

/-- An authority is split off a text as off a string. -/
theorem splitAuthority_ofText (t : Text) :
    splitAuthority (ofText t) =
      (ofText (Url.splitAuthority t).1, ofText (Url.splitAuthority t).2) := by
  unfold Url.splitAuthority
  split
  · rename_i rest
    simp only [ofText, List.map_cons, splitAuthority, List.takeWhile_map, List.dropWhile_map]
    rfl
  · rename_i other
    unfold splitAuthority
    split
    · rename_i rest same
      obtain ⟨c, left, rfl, first, same⟩ := List.map_eq_cons_iff.mp same
      obtain ⟨d, left, rfl, second, -⟩ := List.map_eq_cons_iff.mp same
      cases first
      cases second
      exact (other left rfl).elim
    · rfl

/-- What follows the place where a text is cut. -/
theorem splitAt_snd (c : Char) (t : Text) :
    (Url.splitAt c t).2 = (t.dropWhile (· != c)).drop 1 := by
  unfold Url.splitAt
  induction t with
  | nil => rfl
  | cons d t ih =>
    by_cases same : c = d
    · simp [splitFirst, dropPrefix?, same]
    · have other : (d != c) = true := bne_iff_ne.mpr (Ne.symm same)
      rw [List.dropWhile_cons, if_pos other, ← ih]
      simp only [splitFirst, dropPrefix?, same, ↓reduceIte]
      cases splitFirst [c] t with
      | none => rfl
      | some parts => rfl

/-- A text is cut at a mark as a string. -/
theorem splitAt_ofText (mark : Char) (t : Text) :
    splitAt mark (ofText t) = (ofText (Url.splitAt mark t).1, ofText (Url.splitAt mark t).2) := by
  unfold splitAt
  rw [takeWhile_ofText, dropWhile_ofText, drop_ofText, splitAt_fst, splitAt_snd]

/-- The parts of a text as parts of a string. -/
def Parts.ofText (p : Url.Parts) : Parts where
  scheme := p.scheme
  authority := CodePoints.ofText p.authority
  path := CodePoints.ofText p.path
  query := CodePoints.ofText p.query
  fragment := CodePoints.ofText p.fragment

/-- A text is taken apart as a string. -/
theorem parse?_ofText (t : Text) :
    parse? (ofText t) = (Url.Parts.parse t).toOption.map Parts.ofText := by
  unfold parse?
  simp only [clean_ofText, splitScheme_ofText, splitAuthority_ofText, splitAt_ofText, shadow_ofText]
  rcases parse_cases t with ⟨readable, p, parsed, -⟩ | ⟨refused, e, failed⟩
  · rw [parsed, (parse_eq_ok_iff.mp parsed).2]
    exact if_pos readable
  · rw [failed]
    exact if_neg fun readable => Bool.false_ne_true (refused.symm.trans readable)

/-! ## Texts encoded -/

/-- Host and port of a text are those of its string. -/
theorem hostAndPort_ofText (t : Text) : hostAndPort (ofText t) = ofText (Url.hostAndPort t) := by
  have last : Url.hostAndPort t = (t.reverse.takeWhile (· != '@')).reverse := by
    by_cases member : '@' ∈ t
    · obtain ⟨user, rest, rfl, absent⟩ := exists_last member
      have turned : (user ++ '@' :: rest).reverse = rest.reverse ++ '@' :: user.reverse := by simp
      have absent' : '@' ∉ rest.reverse := by rwa [List.mem_reverse]
      rw [Url.hostAndPort, splitLast_append absent, turned, takeWhile_append_cons (by simp),
        takeWhile_bne absent', List.reverse_reverse]
    · rw [hostAndPort_of_not_mem member, takeWhile_bne (by rwa [List.mem_reverse]),
        List.reverse_reverse]
  have turned (t : Text) : (ofText t).reverse = ofText t.reverse := List.map_reverse.symm
  unfold hostAndPort
  rw [turned, takeWhile_ofText, turned, last]

/-- The authority of a text is encoded as that of its string. -/
theorem encodeAuthority?_ofText (t : Text) :
    encodeAuthority? (ofText t) = (Url.encodeAuthority t).toOption.map ofText := by
  have bracket (hostPort : Text) :
      (ofText hostPort).head? = some (.char '[') ↔ startsWith "[" hostPort = true := by
    cases hostPort with
    | nil => exact iff_of_false nofun (by decide)
    | cons c rest =>
      rw [startsWith_iff]
      change some (CodePoint.char c) = some (CodePoint.char '[') ↔ ['['] <+: c :: rest
      rw [Option.some.injEq, CodePoint.char.injEq, List.cons_prefix_cons, eq_comm,
        and_iff_left (List.nil_prefix)]
  unfold encodeAuthority? Url.encodeAuthority
  simp only [hostAndPort_ofText, length_ofText, take_ofText, takeWhile_ofText, shadow_ofText,
    drop_ofText, toText?_ofText, bracket]
  by_cases bracketed : startsWith "[" (Url.hostAndPort t) = true
  · simp only [bracketed, decide_true, Bool.true_or, ↓reduceIte]
    rfl
  · cases ascii : isAscii ((Url.hostAndPort t).takeWhile (· != ':')) with
    | true =>
      simp only [Bool.or_true, ↓reduceIte, ite_self]
      rfl
    | false =>
      simp only [bracketed, decide_false, Bool.or_self, Bool.false_eq_true, ↓reduceIte,
        Option.bind_eq_bind, Option.bind_some]
      cases encodeHostName ((Url.hostAndPort t).takeWhile (· != ':')) with
      | error e => rfl
      | ok encoded => simp [Except.toOption]

/-- A text is put together with its authority as a string. -/
theorem withAuthority_ofText (p : Url.Parts) (bare : p.authority = []) (authority : Text) :
    withAuthority p (ofText authority) = ofText { p with authority }.toText := by
  cases authority with
  | nil =>
    have same : { p with authority := [] } = p := by rw [← bare]
    rw [same]
    rfl
  | cons c authority =>
    simp [withAuthority, ofText, Url.Parts.toText]

/-- The parts of a text are encoded as those of its string. -/
theorem Parts.encode?_ofText (p : Url.Parts) :
    (Parts.ofText p).encode? = p.writtenAuthority.toOption.map fun authority =>
      CodePoints.ofText (escapeAttribute (p.recoded authority).toText) := by
  have authority : (Parts.ofText p).writtenAuthority? =
      p.writtenAuthority.toOption.map CodePoints.ofText := by
    unfold writtenAuthority? Parts.ofText
    rw [mapRuns_ofText, encodeAuthority?_ofText, Url.Parts.writtenAuthority]
    cases p.authority with
    | nil => rfl
    | cons c rest => rfl
  unfold Parts.encode?
  rw [authority]
  simp only [Parts.ofText, toText?_ofText]
  cases p.writtenAuthority with
  | error e => rfl
  | ok written =>
    change some (mapRuns escapeAttribute
      (withAuthority (p.recoded []) (CodePoints.ofText written))) = _
    rw [withAuthority_ofText (p.recoded []) rfl, mapRuns_ofText]
    rfl

/-- **A text is encoded as its string is.** -/
theorem encode?_ofText (url : Text) :
    encode? (ofText url) = (Url.encode? url).toOption.map ofText := by
  unfold encode?
  rw [shadow_ofText, mapRuns_ofText, parse?_ofText]
  cases readable : checkNumbers url with
  | error e =>
    unfold Url.encode?
    rw [readable]
    rfl
  | ok _ =>
    rw [encode?_eq readable]
    cases parsed : Url.Parts.parse (decodeEntities url) with
    | error e =>
      unfold encodeParts
      rw [parsed]
      rfl
    | ok p =>
      change (Parts.ofText p).encode? = _
      rw [encodeParts_of_parse parsed, Parts.encode?_ofText]
      cases p.writtenAuthority with
      | error e => rfl
      | ok written => rfl

/-- A text that is encoded as a string is encoded. -/
theorem encode_ofText (url : Text) : encode (ofText url) = ofText (Url.encode url) := by
  unfold encode Url.encode
  rw [encode?_ofText]
  cases Url.encode? url with
  | error e => rfl
  | ok written => rfl

/-! ## Surrogates -/

section Surrogate

variable {index : Fin 2048} {t : CodePoints}

/-- A surrogate is not dropped with code points that are characters. -/
theorem surrogate_mem_dropWhile {p : CodePoint → Bool} (kept : p (.surrogate index) = false)
    (member : .surrogate index ∈ t) : .surrogate index ∈ t.dropWhile p := by
  rw [← List.takeWhile_append_dropWhile (p := p) (l := t)] at member
  rcases List.mem_append.mp member with dropped | left
  · rw [List.mem_takeWhile_imp dropped] at kept
    cases kept
  · exact left

/-- A surrogate stays when a URL is cleaned. -/
theorem surrogate_mem_clean (member : .surrogate index ∈ t) : .surrogate index ∈ clean t :=
  List.mem_filter.mpr ⟨surrogate_mem_dropWhile rfl member, rfl⟩

/-- No scheme has a surrogate. -/
theorem surrogate_mem_splitScheme (member : .surrogate index ∈ t) :
    .surrogate index ∈ (splitScheme t).2 := by
  obtain ⟨before, whole, allowed⟩ := splitScheme_spec (shadow t)
  let count := t.length - (Url.splitScheme (shadow t)).2.length
  have cut : (shadow t).take count = before := by
    have own : (shadow t).length = t.length := List.length_map _
    have length := congrArg List.length whole
    rw [own, List.length_append] at length
    rw [List.prefix_iff_eq_take.mp ⟨_, whole.symm⟩]
    congr 1
    omega
  rw [← List.take_append_drop count t, List.mem_append] at member
  refine member.resolve_left fun dropped => ?_
  have named : '\uFFFD' ∈ before := by
    rw [← cut, shadow, ← List.map_take]
    exact List.mem_map_of_mem dropped
  exact absurd (allowed _ named) (by decide)

/-- Where no authority is split off a surrogate stays. -/
theorem surrogate_mem_splitAuthority (hostless : (splitAuthority t).1 = [])
    (member : .surrogate index ∈ t) : .surrogate index ∈ (splitAuthority t).2 := by
  unfold splitAuthority at hostless ⊢
  split at hostless
  · rename_i rest
    have whole := List.takeWhile_append_dropWhile
      (p := fun point => !CodePoint.is endsAuthority point) (l := rest)
    dsimp only at hostless ⊢
    rw [hostless, List.nil_append] at whole
    rw [whole]
    exact (List.mem_cons.mp ((List.mem_cons.mp member).resolve_left nofun)).resolve_left nofun
  · exact member

/-- A surrogate stands on one side of a mark. -/
theorem surrogate_mem_splitAt (mark : Char) (member : .surrogate index ∈ t) :
    .surrogate index ∈ (splitAt mark t).1 ∨ .surrogate index ∈ (splitAt mark t).2 := by
  unfold splitAt
  rw [← List.takeWhile_append_dropWhile (p := (· != .char mark)) (l := t),
    List.mem_append] at member
  refine member.imp_right fun later => ?_
  cases rest : t.dropWhile (· != .char mark) with
  | nil =>
    rw [rest] at later
    cases later
  | cons point rest' =>
    have stop : point = .char mark := by
      have first := List.head?_dropWhile_not (· != CodePoint.char mark) t
      rw [rest] at first
      simpa using first
    rw [rest, stop] at later
    exact (List.mem_cons.mp later).resolve_left nofun

end Surrogate

/-! ## Strings without an authority -/

/-- The authority with which a string starts, whether or not it is a URL. -/
def authority (t : CodePoints) : CodePoints := (splitAuthority (splitScheme (clean t)).2).1

/-- Whether a string can be decoded and has bytes: there is no surrogate, and no reference has a
number that is too long. -/
structure IsEncodable (url : CodePoints) : Prop where
  /-- There is no surrogate. -/
  surrogates : ∀ index, .surrogate index ∉ url
  /-- No reference has a number that is too long. -/
  numbers : checkNumbers (shadow url) = .ok ()

/-- The authority of a text is that of its string. -/
theorem authority_ofText (t : Text) : authority (ofText t) = ofText (start t).2 := by
  unfold authority start
  rw [clean_ofText, splitScheme_ofText, splitAuthority_ofText]

/-- Parts with a surrogate outside of the authority cannot be encoded. -/
theorem Parts.encode?_of_surrogate {p : Parts} {index : Fin 2048} (member :
    .surrogate index ∈ p.path ∨ .surrogate index ∈ p.query ∨ .surrogate index ∈ p.fragment) :
    p.encode? = none := by
  unfold Parts.encode?
  rcases member with path | query | fragment
  · rw [toText?_of_surrogate path]
    cases p.writtenAuthority? <;> rfl
  · rw [toText?_of_surrogate query]
    cases p.writtenAuthority? <;> cases toText? p.path <;> rfl
  · rw [toText?_of_surrogate fragment]
    cases p.writtenAuthority? <;> cases toText? p.path <;> cases toText? p.query <;> rfl

/-- A string with a surrogate and without an authority cannot be encoded. -/
theorem encode?_of_surrogate {url : CodePoints} {index : Fin 2048}
    (member : .surrogate index ∈ url) (hostless : authority (mapRuns decodeEntities url) = []) :
    encode? url = none := by
  have refused : (parse? (mapRuns decodeEntities url)).bind Parts.encode? = none := by
    let rest := (splitAuthority (splitScheme (clean (mapRuns decodeEntities url))).2).2
    have left : .surrogate index ∈ rest := surrogate_mem_splitAuthority hostless
      (surrogate_mem_splitScheme (surrogate_mem_clean (surrogate_mem_mapRuns _ member)))
    refine Option.bind_eq_none_iff.mpr fun p parsed => ?_
    apply Parts.encode?_of_surrogate
    unfold parse? at parsed
    dsimp only at parsed
    split at parsed
    · cases parsed
      rcases surrogate_mem_splitAt '#' left with before | fragment
      · exact (surrogate_mem_splitAt '?' before).imp_right .inl
      · exact .inr (.inr fragment)
    · cases parsed
  unfold encode?
  cases checkNumbers (shadow url) with
  | error e => rfl
  | ok _ => exact refused

/-- A text in which a reference has a number that is too long cannot be encoded. -/
theorem encode?_of_number {url : CodePoints} {e : UrlError}
    (refused : checkNumbers (shadow url) = .error e) : encode? url = none := by
  unfold encode?
  rw [refused]
  rfl

/-- **A string without an authority is encoded exactly if** it has no surrogate and no reference has
a number that is too long; else it stays. What is written then, with nothing to report, has printable
characters of ASCII only, none of which is a quote or starts or ends a tag. -/
theorem encode_hostless (url : CodePoints)
    (hostless : authority (mapRuns decodeEntities url) = []) :
    (url.IsEncodable → ∃ written : Text,
        encode? url = some (ofText written) ∧ encode url = ofText written ∧
        (∀ t records, url = ofText t → (encodeUrl t).run records = (written, records)) ∧
        ∀ c ∈ written, isPrintable c = true ∧ c ∉ ['"', '\'', '<', '>']) ∧
      (¬url.IsEncodable → encode? url = none ∧ encode url = url) := by
  constructor
  · rintro ⟨surrogates, numbers⟩
    rcases eq_ofText_or_surrogate_mem url with ⟨u, rfl⟩ | ⟨index, member⟩
    · rw [mapRuns_ofText, authority_ofText] at hostless
      rw [shadow_ofText] at numbers
      obtain ⟨written, done, quiet, plain⟩ :=
        encodeUrl_of_hostless (List.map_eq_nil_iff.mp hostless) numbers
      have encoded : encode? (ofText u) = some (ofText written) := by
        rw [encode?_ofText, done]
        rfl
      refine ⟨written, encoded, by rw [encode, encoded]; rfl, fun t records same => ?_, plain⟩
      have own : t = u := by
        have read := toText?_ofText t
        rw [← same, toText?_ofText] at read
        exact (Option.some.inj read).symm
      rw [own]
      exact quiet records
    · exact absurd member (surrogates index)
  · intro refused
    have none : encode? url = none := by
      rcases eq_ofText_or_surrogate_mem url with ⟨u, rfl⟩ | ⟨index, member⟩
      · cases numbers : checkNumbers (shadow (ofText u)) with
        | error e => exact encode?_of_number numbers
        | ok _ => exact absurd ⟨fun index => surrogate_not_mem_ofText index u, numbers⟩ refused
      · exact encode?_of_surrogate member hostless
    exact ⟨none, by rw [encode, none]; rfl⟩

/-- A URL whose references and escapes stand for quotes, tags, controls, a space and letters beyond
ASCII. -/
theorem encode_hostless_of_marks :
    let url : Text := "\x01DATA:%22é&#x27;<b&#62;%00 %C3?&#34;=\x0b#&#xA9;%7F"
    let written : Text := "data:%22%C3%A9&#x27;%3Cb%3E%00%20%EF%BF%BD?%22=%0B#%C2%A9%7F"
    authority (mapRuns decodeEntities (ofText url)) = [] ∧ (ofText url).IsEncodable ∧
      encode (ofText url) = ofText written ∧
      (∀ records, (encodeUrl url).run records = (written, records)) ∧
      ∀ c ∈ written, isPrintable c = true ∧ c ∉ ['"', '\'', '<', '>'] := by
  intro url written
  have hostless : authority (mapRuns decodeEntities (ofText url)) = [] := by
    rw [mapRuns_ofText, authority_ofText,
      show (start (decodeEntities url)).2 = [] by decide +kernel]
    rfl
  have encodable : (ofText url).IsEncodable := by
    refine ⟨fun index => surrogate_not_mem_ofText index url, ?_⟩
    rw [shadow_ofText]
    decide +kernel
  have encoded : encode (ofText url) = ofText written := by
    rw [encode_ofText, show Url.encode url = written by decide +kernel]
  obtain ⟨given, -, same, quiet, plain⟩ := (encode_hostless (ofText url) hostless).1 encodable
  have own : given = written := by
    have read := congrArg toText? (same.symm.trans encoded)
    rwa [toText?_ofText, toText?_ofText, Option.some.injEq] at read
  subst own
  exact ⟨hostless, encodable, encoded, fun records => quiet url records rfl, plain⟩

/-- A surrogate that stands alone, and a text with a reference whose number is too long, have no
authority and stay as they are written, though not all of that is ASCII. -/
theorem encode_stays_of_surrogate_and_number :
    let lone : CodePoints := [.surrogate 0]
    let long : Text := "é&#" ++ (List.replicate 4301 '1' ++ [';'])
    (authority (mapRuns decodeEntities lone) = [] ∧ encode? lone = none ∧ encode lone = lone) ∧
      ((start (decodeEntities long)).2 = [] ∧ Url.encode? long = .error (.longNumber 4301) ∧
        Url.encode long = long ∧ 'é' ∈ long ∧ isPrintable 'é' = false) := by
  intro lone long
  have absent : authority (mapRuns decodeEntities lone) = [] := by decide +kernel
  have refused : encode? lone = none := encode?_of_surrogate List.mem_cons_self absent
  have hostless : (start (decodeEntities long)).2 = [] := by
    let rest := decodeEntities ("&#" ++ (List.replicate 4301 '1' ++ [';']))
    have decoded : decodeEntities long = 'é' :: rest :=
      browserReferences.decode_cons (by decide) _
    have clean : cleanUrl ('é' :: rest) = 'é' :: rest.filter isKept := by
      rw [cleanUrl_of_head (by simp), List.filter_cons_of_pos (by decide)]
    rw [decoded, start, clean, splitScheme_of_head (by decide)]
    rfl
  have number : checkNumbers long = .error (.longNumber 4301) := by
    have decimal : ∀ c ∈ List.replicate 4301 '1', c.isDigit = true := by
      intro c member
      rw [List.eq_of_mem_replicate member]
      rfl
    have plain : '&' ∉ ['é'] := by decide
    have ends : ∀ c ∈ [';'].head?, c.isDigit = false := by
      rintro c ⟨⟩
      rfl
    have long : mostDigits < (List.replicate 4301 '1').length := by
      rw [List.length_replicate, mostDigits]
      omega
    have first := checkNumbers_of_digits plain decimal ends long
    rwa [List.length_replicate] at first
  have fails : Url.encode? long = .error (.longNumber 4301) := by
    unfold Url.encode?
    rw [number]
    rfl
  have stays : Url.encode long = long := by rw [Url.encode, fails]
  exact ⟨⟨absent, refused, by rw [encode, refused]; rfl⟩, hostless, fails, stays,
    List.mem_cons_self, by decide⟩

end MarkdownSite.Url.CodePoints
