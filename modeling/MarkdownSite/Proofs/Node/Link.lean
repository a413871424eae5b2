import MarkdownSite.Node.Inline
import MarkdownSite.Proofs.Text.Escape
import MarkdownSite.Proofs.Url.Encode
import MarkdownSite.Proofs.Url.Number

/-!
# Where links lead

The `href` of a link is what a browser reads between its quotes. A target that starts with an unsafe
scheme is blanked, but a target that only becomes one when it is encoded is not: the statement here
says exactly which targets these are.
-/

namespace MarkdownSite

open Text

/-! ## The element of a link -/

/-- The value of the `href` with which the element of a link starts, up to the quote that ends
it. -/
def Link.hrefIn? (html : Text) : Option Text :=
  (dropPrefix? "<a href=\"" html).map fun rest => rest.takeWhile (· != '"')

/-- The `href` that is written for a link. -/
def Link.href (link : Link) (options : RenderOptions) : Text :=
  match link.hiddenAddress? options with
  | some address => Url.mangle (mailScheme ++ address)
  | none => Url.encode (link.target options)

/-- An encoded URL is written whether or not a report is due. -/
theorem run_encodeUrl (url : Text) (records : List LogRecord) :
    ((encodeUrl url).run records).1 = Url.encode url := by
  unfold encodeUrl
  cases encoded : Url.encode? url with
  | ok written => rfl
  | error fault => rfl

/-- The text that is shown for a link; a hidden address is shown hidden. -/
def Link.shown (link : Link) (options : RenderOptions) : Text :=
  match link.hiddenAddress? options with
  | some address => Url.mangle address
  | none => link.text

/-- A link is its text alone, or an element with its `href`. -/
theorem run_renderLink (page : Page) (link : Link) (records : List LogRecord) :
    ((renderLink page link).run records).1 =
      if link.isAutolink && !page.options.autolink then link.text
      else link.element page (link.href page.options) (link.shown page.options) := by
  unfold renderLink Link.href Link.shown
  by_cases alone : (link.isAutolink && !page.options.autolink) = true
  · simp only [alone, ↓reduceIte]
    split <;> rfl
  · simp only [alone]
    cases link.hiddenAddress? page.options with
    | some address =>
      simp only
      split <;> rfl
    | none =>
      simp only
      have written (records : List LogRecord) :=
        congrArg (fun href => link.element page href link.text)
          (run_encodeUrl (link.target page.options) records)
      split
      · exact written _
      · exact written _

/-- The `href` of an element can be read from it, up to the first double quote that it has. -/
theorem hrefIn?_element (link : Link) (page : Page) (href text : Text) :
    Link.hrefIn? (link.element page href text) = some (href.takeWhile (· != '"')) := by
  have cut : link.element page href text = "<a href=\"" ++ (href ++ '"' :: (titleHtml link.title
      ++ link.externalHtml page ++ ">" ++ text ++ "</a>")) := by
    unfold Link.element
    generalize link.externalHtml page = added
    simp [attributeHtml]
  rw [Link.hrefIn?, cut, dropPrefix?_append, Option.map_some,
    takeWhile_append_cons (by decide)]

/-! ## Hidden addresses -/

/-- An address that is hidden stays in its quotes. -/
theorem Url.unmarked_mangle (t : Text) : Unmarked (mangle t) := by
  intro d member
  obtain ⟨c, -, inside⟩ := List.mem_flatMap.mp member
  rcases List.mem_append.mp inside with start | close
  · rcases List.mem_append.mp start with opening | digit
    · exact (show Unmarked "&#" by decide) d opening
    · exact isMark_eq_false (p := Char.isDigit) (by decide) (isDigit_of_mem_ofNat digit)
  · exact (show Unmarked ";" by decide) d close

/-- A browser reads a hidden mail address as no script. -/
theorem isUnsafe_mangle (address : Text) :
    Url.isUnsafe (decodeEntities (Url.mangle (mailScheme ++ address))) = false := by
  have first : ∃ rest, Url.mangle (mailScheme ++ address) = '&' :: ("#109;" ++ rest) := ⟨_, rfl⟩
  obtain ⟨rest, mangled⟩ := first
  rw [mangled, decodeEntities, browserReferences.decode_reference ['m'] rfl]
  rfl

/-! ## Unsafe targets -/

/-- Whether a target is written as one that starts with an unsafe scheme: with the references
decoded its scheme is one, or it has no scheme and its path starts like one; a target that cannot be
encoded is written as it is, and read up to its first double quote. -/
def Url.emitsUnsafe (url : Text) : Bool :=
  match Parts.parse (decodeEntities url), encode? url with
  | .ok p, .ok _ =>
    unsafeSchemes.contains (p.scheme ++ [':'])
      || p.scheme.isEmpty && isUnsafe (percentDecode p.path)
  | _, _ => isUnsafe (decodeEntities (url.takeWhile (· != '"')))

/-- What a browser reads of an encoded target starts with an unsafe scheme in these cases. -/
theorem Url.isUnsafe_encode (url : Text) :
    isUnsafe (decodeEntities ((encode url).takeWhile (· != '"'))) = emitsUnsafe url := by
  unfold emitsUnsafe
  rcases encode?_cases url with ⟨encoded, -, parts, done, whole⟩ | ⟨e, refused, raw⟩
  · obtain ⟨p, parsed⟩ := exists_parse_of_encodeParts parts
    rw [whole, done, parsed, takeWhile_bne (unmarked_escapeAttribute encoded).quote_not_mem,
      decodeEntities_escapeAttribute, Bool.eq_iff_iff, isUnsafe_encodeParts parsed parts]
    simp only [Bool.or_eq_true, Bool.and_eq_true, List.contains_iff_mem, List.isEmpty_iff]
  · rw [raw, refused]
    cases Parts.parse (decodeEntities url) with
    | error _ => rfl
    | ok p => rfl

/-- **A link whose unsafe target is to be blanked leads to an unsafe scheme exactly if** its target
does not start with one, percent escapes decoded, is no mail address that is hidden, and is written
as one that does. -/
theorem isUnsafe_href_iff (page : Page) (on : page.options.sanitizeUrl = true) (link : Link)
    (records : List LogRecord) :
    if link.isAutolink && !page.options.autolink then
      ((renderLink page link).run records).1 = link.text
    else
      ∃ href, Link.hrefIn? ((renderLink page link).run records).1 = some href ∧
        (Url.isUnsafe (decodeEntities href) = true ↔
          Url.isUnsafe (Url.percentDecode link.url) = false ∧
            link.hiddenAddress? page.options = none ∧ Url.emitsUnsafe link.url = true) := by
  rw [run_renderLink]
  split
  · rfl
  refine ⟨_, hrefIn?_element link page _ _, ?_⟩
  unfold Link.href
  cases hidden : link.hiddenAddress? page.options with
  | some address =>
    rw [takeWhile_bne (Url.unmarked_mangle _).quote_not_mem, isUnsafe_mangle]
    simp only [Bool.false_eq_true, reduceCtorEq, false_and, and_false]
  | none =>
    simp only [Url.isUnsafe_encode, Link.target, on, Bool.true_and, true_and]
    cases Url.isUnsafe (Url.percentDecode link.url) with
    | true =>
      have blank : Url.emitsUnsafe [] = false := by decide +kernel
      simp only [↓reduceIte, blank, Bool.false_eq_true, Bool.true_eq_false, false_and]
    | false => simp only [Bool.false_eq_true, ↓reduceIte, true_and]

/-- A target whose colon is written as a reference is not blanked. -/
theorem isUnsafe_href_of_reference :
    ∃ href, Link.hrefIn? ((renderLink { options := { sanitizeUrl := true } }
        { text := "x", url := "javascript&#58;alert(1)" }).run []).1 = some href ∧
      Url.isUnsafe (decodeEntities href) = true := by
  obtain ⟨href, read, leads⟩ := isUnsafe_href_iff { options := { sanitizeUrl := true } } rfl
    { text := "x", url := "javascript&#58;alert(1)" } []
  exact ⟨href, read, leads.mpr (by decide +kernel)⟩

/-- The link to that target runs a script, though unsafe targets are to be blanked. -/
theorem renderLink_reference :
    ((renderLink { options := { sanitizeUrl := true } }
        { text := "x", url := "javascript&#58;alert(1)" }).run []).1 =
      "<a href=\"javascript:alert(1)\">x</a>" := by
  decide +kernel

end MarkdownSite
