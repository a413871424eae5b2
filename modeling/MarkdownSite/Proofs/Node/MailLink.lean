import MarkdownSite.Markdown.Inline.Link
import MarkdownSite.Proofs.Node.Inline
import MarkdownSite.Proofs.Node.Renders
import MarkdownSite.Proofs.Site.Path
import MarkdownSite.Proofs.Text.Escape
import MarkdownSite.Proofs.Url.Mail

/-!
# Mail addresses that stand as links

A mail address between angle brackets is a link that shows the address. Whether it is hidden or not,
a reader gets the same of it exactly if it keeps its spelling: the escapes of an address that is
hidden are decoded.
-/

namespace MarkdownSite

open Text

/-! ## What a reader gets of a link -/

/-- The text with which the element of a link goes on after its tag, up to the end tag. -/
def Link.textIn? (html : Text) : Option Text := (afterTagEnd? html).bind (dropSuffix? "</a>")

/-- Where the element of a link leads and what it shows, as a reader gets them: with the references
decoded. -/
def Link.seen? (html : Text) : Option (Text × Text) := do
  let href ← Link.hrefIn? html
  let text ← Link.textIn? html
  return (decodeEntities href, decodeEntities text)

/-- A reader gets the `href` and the text of an element. -/
theorem Link.seen?_element {link : Link} (target : Url.IsTarget link.url) (page : Page)
    (text : Text) :
    Link.seen? (link.element page (link.href page.options) text) =
      some (decodeEntities (link.href page.options), decodeEntities text) := by
  have href : Link.hrefIn? (link.element page (link.href page.options) text) =
      some (link.href page.options) := by
    rw [hrefIn?_element, takeWhile_bne (Link.unmarked_href target page.options).quote_not_mem]
  have shown : Link.textIn? (link.element page (link.href page.options) text) = some text := by
    let attributes := attributesHtml (link.attributes page)
    have unmarked := link.areUnmarked_attributesTo page (Link.unmarked_href target page.options)
    have unclosed : '>' ∉ '<' :: ("a" ++ attributes) := by
      have absent : '>' ∉ attributes := not_mem_attributesHtml unmarked (.inr rfl)
      simp [absent]
    have whole : link.element page (link.href page.options) text =
        '<' :: ("a" ++ attributes) ++ '>' :: (text ++ "</a>") := by
      rw [Link.element_eq]
      simp [startTag, endTag, attributes]
    have closes : dropSuffix? "</a>" (text ++ "</a>") = some text := by
      rw [dropSuffix?, List.reverse_append, dropPrefix?_append, Option.map_some,
        List.reverse_reverse]
    rw [Link.textIn?, whole, afterTagEnd?_append unclosed, Option.bind_some, closes]
  rw [Link.seen?, href, shown]
  rfl

/-! ## Mail addresses -/

/-- The node of a mail address that stands between angle brackets. -/
def Node.mailLink (a : Text) : Node :=
  .parent "link" [("url", .text (Url.target (mailScheme ++ a)))] [.text a]

/-- The link that the node of a mail address describes. -/
def Link.ofMail (a : Text) : Link where
  text := renormalize a
  url := Url.target (mailScheme ++ a)
  isAutolink := true

/-- The page with mail addresses hidden or not. -/
def Page.withMangle (page : Page) (mangle : Bool) : Page :=
  { page with options := { page.options with mangle } }

/-- What a reader gets of a mail address where a page is rendered, from a state. -/
def Page.mailSeen? (page : Page) (extensions : List Markdown.Extension) (a : Text)
    (s : RenderState) : Option (Text × Text) :=
  match (renderNode (page.renderer [] extensions) (.mailLink a)).runOn s with
  | (.ok html, _) => Link.seen? html
  | (.error _, _) => none

/-- A mail address stands as a link that shows it. -/
theorem Node.autolinkText?_mailLink (a : Text) : (Node.mailLink a).autolinkText? = some a := by
  have untitled : ((mailLink a).attributeValue "title").isTruthy = false := rfl
  have inside : (mailLink a).children = [.raw "text" [] a] := rfl
  have leads : ((mailLink a).attributes.get? "url".toList).getD (.text []) =
      .text (Url.target (mailScheme ++ a)) := rfl
  unfold autolinkText?
  rw [untitled, if_neg Bool.false_ne_true, inside]
  simp only [kind, leads, ↓reduceIte, beq_self_eq_true, Bool.or_true]

/-- A mail address between angle brackets has characters of mail addresses only. -/
theorem isMailChar_of_isMailAddress {a : Text} (mail : Markdown.isMailAddress a = true) :
    ∀ c ∈ a, Url.isMailChar c = true := by
  unfold Markdown.isMailAddress at mail
  dsimp only at mail
  split at mail
  · rename_i name host cut
    simp only [Bool.and_eq_true, List.all_eq_true, Bool.or_eq_true] at mail
    obtain ⟨⟨-, ofName⟩, ofHost⟩ := mail
    have ofPiece {c : Char} {piece : Text} (listed : piece ∈ splitOn '.' host)
        (inside : c ∈ piece) : Url.isMailChar c = true := by
      have part := ofHost piece listed
      simp only [Markdown.isHostPart, Bool.and_eq_true, List.all_eq_true, Bool.or_eq_true,
        beq_iff_eq] at part
      rcases part.1.1.2 c inside with letter | rfl
      · exact Bool.or_eq_true_iff.mpr (.inl letter)
      · rfl
    intro c member
    rw [eq_append_of_splitFirst cut, List.append_assoc, List.mem_append] at member
    rcases member with before | after
    · rcases ofName c before with letter | other
      · exact Bool.or_eq_true_iff.mpr (.inl letter)
      · exact forall_mem_of_all (p := fun d => Url.isMailChar d = true) (by decide) c
          (List.elem_iff.mp other)
    · rcases List.mem_cons.mp after with rfl | after
      · rfl
      · rcases mem_splitOn (c := '.') after with rfl | ⟨piece, among, inside⟩
        · rfl
        · exact ofPiece among inside
  · cases mail

section Page

variable (page : Page) (extensions : List Markdown.Extension)
  (on : page.options.autolink = true) (a : Text) (s : RenderState)

include on

/-- A mail address is rendered as the element of a link. -/
theorem runOn_mailLink :
    ((renderNode (page.renderer [] extensions) (.mailLink a)).runOn s).1 =
      .ok ((Link.ofMail a).element page ((Link.ofMail a).href page.options)
        ((Link.ofMail a).shown page.options)) := by
  have address : (page.renderer [] extensions).takesAddress (.mailLink a) = true := by
    unfold NodeRenderer.takesAddress Node.isAutolink
    rw [Node.autolinkText?_mailLink]
    rfl
  have leads : (Node.mailLink a).attributes.get? "url" =
      some (.text (Url.target (mailScheme ++ a))) := rfl
  have untitled : optionalText (Node.mailLink a).attributes "title" = .ok [] := rfl
  have free : ∀ entry ∈ (Node.mailLink a).attributes,
      entry.1 ≠ "text".toList ∧ entry.1 ≠ selfParameter := by
    intro entry member
    obtain rfl := List.mem_singleton.mp member
    exact ⟨show "url".toList ≠ _ by decide, show "url".toList ≠ _ by decide⟩
  have element := run_renderLink page (Link.ofMail a) s.records
  rw [on, Bool.not_true, Bool.and_false, if_neg Bool.false_ne_true] at element
  rw [runOn_address page extensions address leads untitled free s, Node.autolinkText?_mailLink]
  exact congrArg Except.ok element

/-- A reader gets the `href` and the text of a mail address. -/
theorem mailSeen?_eq :
    page.mailSeen? extensions a s = some (decodeEntities ((Link.ofMail a).href page.options),
      decodeEntities ((Link.ofMail a).shown page.options)) := by
  have ran := runOn_mailLink page extensions on a s
  have target : Url.IsTarget (Link.ofMail a).url := Url.isTarget_target _
  unfold Page.mailSeen?
  cases rendered : (renderNode (page.renderer [] extensions) (.mailLink a)).runOn s with
  | mk result after =>
    rw [rendered] at ran
    obtain rfl := ran
    exact Link.seen?_element target page _

end Page

/-! ## Hidden mail addresses -/

section Address

variable {a : Text} (mail : ∀ c ∈ a, Url.isMailChar c = true)

include mail

/-- A mail address has no semicolon. -/
theorem semicolon_not_mem_mail : ';' ∉ a :=
  fun member => (Url.isMailChar_spec (mail ';' member)).2 rfl

/-- The link of a mail address leads to the address. -/
theorem Link.target_ofMail (options : RenderOptions) :
    (Link.ofMail a).target options = mailScheme ++ Url.target a := by
  have leads : (Link.ofMail a).url = mailScheme ++ Url.target a :=
    Url.target_mailScheme (semicolon_not_mem_mail mail)
  have safe : Url.isUnsafe (Url.percentDecode (mailScheme ++ Url.target a)) = false := by
    rw [Url.percentDecode_append (forall_mem_of_all (by decide))]
    rfl
  rw [Link.target, leads, safe, Bool.and_false, if_neg Bool.false_ne_true]

/-- A mail address that is hidden is the one that its URL gives. -/
theorem Link.hiddenAddress?_ofMail (options : RenderOptions) :
    (Link.ofMail a).hiddenAddress? options =
      if options.mangle then some (Url.percentDecode (Url.target a)) else none := by
  have hides : (Link.ofMail a).isAutolink = true := rfl
  rw [Link.hiddenAddress?, Link.target_ofMail mail, dropPrefix?_append, hides, Bool.true_and,
    Option.map_some]

/-- A reader gets a mail address as it stands where it is not hidden. -/
theorem decodeEntities_text_ofMail : decodeEntities (Link.ofMail a).text = a := by
  rw [Link.ofMail, renormalize, decodeStrictEntities_of_unclosed (semicolon_not_mem_mail mail),
    decodeEntities_escapeMarkup]

/-- A mail address is hidden as itself exactly if it has no escape. -/
theorem decodeEntities_mangle_target_iff :
    decodeEntities (Url.mangle (Url.percentDecode (Url.target a))) = a ↔
      Url.hasEscape a = false := by
  have percent : '%' ∈ Url.targetCharacters := by decide
  have ascii : isAscii Url.targetCharacters = true := by decide
  rw [Url.target_of_unclosed (semicolon_not_mem_mail mail)]
  constructor
  · intro same
    -- a text without escapes is as long as what it is decoded to, and hiding makes nothing longer
    have hidden := Url.length_decodeEntities_mangle_le
      (Url.percentDecode (Url.percentEncode Url.targetCharacters a))
    rw [same] at hidden
    exact Url.hasEscape_eq_false_of_length percent ascii hidden
  · intro plain
    rw [(Url.percentDecode_percentEncode_eq_iff percent ascii a).mpr plain]
    exact Url.decodeEntities_mangle fun c member => (Url.isMailChar_spec (mail c member)).1

end Address

section Mangle

variable (page : Page) (extensions : List Markdown.Extension)
  (on : page.options.autolink = true) {a : Text} (mail : ∀ c ∈ a, Url.isMailChar c = true)
  (s : RenderState)

include on mail

/-- A reader gets a hidden mail address with its escapes decoded. -/
theorem mailSeen?_hidden :
    (page.withMangle true).mailSeen? extensions a s =
      some (decodeEntities (Url.mangle (mailScheme ++ Url.percentDecode (Url.target a))),
        decodeEntities (Url.mangle (Url.percentDecode (Url.target a)))) := by
  rw [mailSeen?_eq (page.withMangle true) extensions on, Link.href, Link.shown,
    Link.hiddenAddress?_ofMail mail]
  rfl

/-- A reader gets a mail address that is not hidden as it stands, with its URL encoded. -/
theorem mailSeen?_plain :
    (page.withMangle false).mailSeen? extensions a s =
      some (decodeEntities (Url.encode (mailScheme ++ Url.target a)), a) := by
  rw [mailSeen?_eq (page.withMangle false) extensions on, Link.href, Link.shown,
    Link.hiddenAddress?_ofMail mail, Link.target_ofMail mail]
  simp only [Page.withMangle, Bool.false_eq_true, ↓reduceIte, decodeEntities_text_ofMail mail]

/-- **Hiding a mail address keeps the text that a reader gets** exactly if the address has no escape.
If its URL has no reference, hiding keeps both the text and the `href` exactly if the URL is encoded
as the address is spelled. -/
theorem mail_seen_alike_iff :
    ∃ hidden plain, (page.withMangle true).mailSeen? extensions a s = some hidden ∧
      (page.withMangle false).mailSeen? extensions a s = some plain ∧
      (hidden.2 = plain.2 ↔ Url.hasEscape a = false) ∧
      (decodeEntities (Url.target a) = Url.target a →
        (hidden = plain ↔ Url.KeepsSpelling a)) := by
  refine ⟨_, _, mailSeen?_hidden page extensions on mail s,
    mailSeen?_plain page extensions on mail s, decodeEntities_mangle_target_iff mail,
    fun references => ?_⟩
  have printable : ∀ c ∈ a, Url.IsPrintable c :=
    fun c member => (Url.isMailChar_spec (mail c member)).1
  have unclosed := semicolon_not_mem_mail mail
  rw [Prod.mk.injEq, decodeEntities_mangle_target_iff mail, and_comm]
  by_cases plain : Url.hasEscape a = false
  · have decoded : Url.percentDecode (Url.target a) = a := by
      rw [Url.target_of_unclosed unclosed]
      exact (Url.percentDecode_percentEncode_eq_iff (by decide) (by decide) a).mpr plain
    have readable : ∀ c ∈ mailScheme ++ a, Url.IsPrintable c := by
      intro c member
      rcases List.mem_append.mp member with scheme | address
      · exact forall_mem_of_all (p := fun d => 32 ≤ d.toNat ∧ d.toNat < 127) (by decide) c scheme
      · exact printable c address
    rw [Url.target_of_unclosed unclosed] at references
    obtain ⟨encoded, written, same⟩ := Url.encodeParts_mail
      (fun c member => Nat.lt_succ_of_lt (printable c member).2) plain references
    have escaped : Url.encode (mailScheme ++ Url.target a) = escapeAttribute encoded := by
      have closes : ';' ∉ Url.percentEncode Url.targetCharacters a := by
        rwa [Url.mem_percentEncode_iff (by decide) (by decide) (by decide)]
      have readable : Url.checkNumbers (mailScheme ++ Url.target a) = .ok () := by
        rw [Url.checkNumbers_append (by decide), Url.target_of_unclosed unclosed]
        exact Url.checkNumbers_of_decodeEntities_eq closes references
      rw [Url.encode, Url.encode?_eq readable, Url.target_of_unclosed unclosed, written]
      rfl
    rw [and_iff_right plain, decoded, Url.decodeEntities_mangle readable, escaped,
      decodeEntities_escapeAttribute, ← same, eq_comm]
  · exact iff_of_false (fun both => plain both.1) fun keeps => plain keeps.escapes

end Mangle

/-- An address that keeps its spelling is the same to a reader where it is hidden. -/
theorem mail_seen_alike_of_plus :
    let seen := fun mangle => (Page.withMangle {} mangle).mailSeen? [] "me+you@b.c" {}
    Url.KeepsSpelling "me+you@b.c" ∧ (seen true).isSome = true ∧ seen true = seen false := by
  have address : Markdown.isMailAddress "me+you@b.c" = true := by decide
  have references : decodeEntities (Url.target "me+you@b.c") = Url.target "me+you@b.c" := by
    decide +kernel
  have keeps : Url.KeepsSpelling "me+you@b.c" := by decide +kernel
  obtain ⟨hidden, plain, hides, shows, -, same⟩ :=
    mail_seen_alike_iff {} [] rfl (isMailChar_of_isMailAddress address) {}
  dsimp only
  rw [hides, shows, (same references).mpr keeps]
  exact ⟨keeps, rfl, rfl⟩

/-- An address with an escape is another one to a reader where it is hidden. -/
theorem mail_seen_otherwise_of_escape :
    let seen := fun mangle => (Page.withMangle {} mangle).mailSeen? [] "a%41@b.c" {}
    Markdown.isMailAddress "a%41@b.c" = true ∧
      seen true = some ("mailto:aA@b.c".toList, "aA@b.c".toList) ∧
      seen false = some ("mailto:aA@b.c".toList, "a%41@b.c".toList) := by
  have address : Markdown.isMailAddress "a%41@b.c" = true := by decide
  have mail := isMailChar_of_isMailAddress address
  dsimp only
  refine ⟨address, ?_, ?_⟩
  · rw [mailSeen?_hidden {} [] rfl mail]
    decide +kernel
  · rw [mailSeen?_plain {} [] rfl mail]
    decide +kernel

end MarkdownSite
