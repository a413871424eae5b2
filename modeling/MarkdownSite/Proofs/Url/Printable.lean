import MarkdownSite.Node.Inline
import MarkdownSite.Proofs.Text.Escape
import MarkdownSite.Proofs.Url.Stable

/-!
# What encoded URLs are written with

If its references can be read, only the authority of a URL can be refused, and only it is written
without percent escapes. So a URL without one is encoded, and whatever its references and escapes
stand for, what is written has printable characters of ASCII only: its scheme is made of letters,
digits and a few marks, and each other character that does not stand for itself becomes escapes of
its bytes.
-/

namespace MarkdownSite.Url

open Text

/-- Whether a character is a visible one of ASCII: neither a control nor the space. -/
def isPrintable (c : Char) : Bool := '!' ≤ c && c ≤ '~'

/-! ## The characters of a URL -/

/-- The marks that stand between the parts of a URL. -/
def partMarks : Text := [':', '/', '?', '#']

/-- A URL is put together from its parts and the marks between them. -/
theorem Parts.toText_subset (p : Parts) :
    p.toText ⊆ partMarks ++ (p.scheme ++ p.authority ++ p.path ++ p.query ++ p.fragment) := by
  have scheme : (if p.scheme.isEmpty then [] else p.scheme ++ [':']) ⊆ ':' :: p.scheme := by
    split <;> simp
  have behind (mark : Char) (part : Text) :
      (if part.isEmpty then [] else mark :: part) ⊆ mark :: part := by
    split <;> simp
  intro c member
  unfold toText at member
  unfold partMarks
  simp only [List.mem_append] at member
  rcases member with ((first | place) | query) | fragment
  · have named := scheme first
    grind
  · grind
  · have asked := behind '?' p.query query
    grind
  · have pointed := behind '#' p.fragment fragment
    grind

/-- The characters of schemes stand for themselves. -/
theorem IsScheme.standsForItself {scheme : Text} (valid : IsScheme scheme) :
    ∀ c ∈ scheme, standsForItself safeCharacters c = true := by
  intro c member
  rcases valid with rfl | ⟨-, allowed, -⟩
  · cases member
  · have letter := List.all_eq_true.mp allowed c member
    simp only [isSchemeChar, Bool.or_eq_true, beq_iff_eq] at letter
    rcases letter with ((alphanumeric | rfl) | rfl) | rfl
    · simp [Url.standsForItself, isUnreserved, alphanumeric]
    all_goals decide

/-- All characters of an encoded URL stand for themselves, if those of its authority do. -/
theorem standsForItself_of_mem_recoded {p : Parts} {authority : Text} (valid : IsScheme p.scheme)
    (host : ∀ c ∈ authority, standsForItself safeCharacters c = true) :
    ∀ c ∈ (p.recoded authority).toText, standsForItself safeCharacters c = true := by
  have marks : ∀ c ∈ partMarks, standsForItself safeCharacters c = true :=
    List.all_eq_true.mp (by decide)
  have encoded (part : Text) : ∀ c ∈ recode part, standsForItself safeCharacters c = true :=
    fun c member => standsForItself_of_mem_percentEncode (by decide) member
  intro c member
  have inside := (p.recoded authority).toText_subset member
  simp only [List.mem_append] at inside
  rcases inside with mark | (((scheme | named) | path) | query) | fragment
  · exact marks c mark
  · exact valid.standsForItself c scheme
  · exact host c named
  · exact encoded p.path c path
  · exact encoded p.query c query
  · exact encoded p.fragment c fragment

/-- A character that stands for itself is printable. -/
theorem isPrintable_of_standsForItself {c : Char}
    (itself : standsForItself safeCharacters c = true) : isPrintable c = true := by
  have narrow : c.toNat < 128 := toNat_lt_of_standsForItself (by decide) itself
  revert itself
  exact of_toNat_lt narrow (by decide)

/-- A printable character is escaped for an attribute with printable characters. -/
theorem isPrintable_escapeAttributeChar {c : Char} (printable : isPrintable c = true) :
    ∀ d ∈ escapeAttributeChar c, isPrintable d = true := by
  rw [← List.all_eq_true]
  unfold escapeAttributeChar escapeMarkupChar escapeContentChar
  split
  · decide
  split
  · decide
  split
  · decide
  split
  · decide
  split
  · decide
  · rw [List.all_cons, printable]
    rfl

/-! ## URLs without an authority -/

/-- A URL without an authority can be taken apart. -/
theorem exists_parse_of_hostless {t : Text} (hostless : (start t).2 = []) :
    ∃ p, Parts.parse t = .ok p ∧ p.authority = [] := by
  rcases parse_cases t with ⟨-, p, parsed, -, authority⟩ | ⟨refused, -⟩
  · exact ⟨p, parsed, authority.trans hostless⟩
  · rw [hostless] at refused
    cases refused

/-- **A URL without an authority is encoded** if no reference has a number that is too long, with
nothing to report, and what is written has printable characters of ASCII only, none of which is a
quote or starts or ends a tag. -/
theorem encodeUrl_of_hostless {url : Text} (hostless : (start (decodeEntities url)).2 = [])
    (readable : checkNumbers url = .ok ()) :
    ∃ written, encode? url = .ok written ∧
      (∀ records, (encodeUrl url).run records = (written, records)) ∧
      ∀ c ∈ written, isPrintable c = true ∧ c ∉ ['"', '\'', '<', '>'] := by
  obtain ⟨p, parsed, absent⟩ := exists_parse_of_hostless hostless
  let encoded := (p.recoded []).toText
  have done : encode? url = .ok (escapeAttribute encoded) := by
    have bare : p.writtenAuthority = .ok [] := by
      rw [Parts.writtenAuthority, absent]
      rfl
    rw [encode?_eq readable, encodeParts_of_parse parsed, bare]
    rfl
  refine ⟨escapeAttribute encoded, done, fun records => ?_, fun c member => ⟨?_, ?_⟩⟩
  · have written : encode url = escapeAttribute encoded := by rw [encode, done]
    unfold encodeUrl
    rw [done, written]
    rfl
  · have valid : IsScheme p.scheme := by
      rw [(parse_eq_ok parsed).1]
      exact isScheme_splitScheme _
    obtain ⟨d, origin, escaped⟩ := List.mem_flatMap.mp member
    have itself := standsForItself_of_mem_recoded valid (by simp) d origin
    exact isPrintable_escapeAttributeChar (isPrintable_of_standsForItself itself) c escaped
  · have unmarked := unmarked_escapeAttribute encoded c member
    simp only [isMark, Bool.or_eq_false_iff, beq_eq_false_iff_ne] at unmarked
    obtain ⟨⟨quote, opening⟩, closing⟩ := unmarked
    have apostrophe : c ≠ '\'' := by
      rintro rfl
      exact apostrophe_not_mem_escapeAttribute encoded member
    simp [quote, opening, closing, apostrophe]

end MarkdownSite.Url
