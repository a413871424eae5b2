import MarkdownSite.Proofs.Heading.Alias
import MarkdownSite.Proofs.Node.Inline
import MarkdownSite.Proofs.Site.Path

/-!
# The element of a link as an alias

The element of a link into the document is recognised as one: its target is the first that is looked
at, and neither a title nor the attributes of links out of the site hold another. It ends where its
text ends, if nothing in the text ends a link.
-/

namespace MarkdownSite.Heading

open Text

/-! ## The end of a link -/

/-- Nothing in a text ends a link: the end of a link is found behind it. -/
def SkipsLinkEnd (t : Text) : Prop :=
  ∀ rest, splitFirst "</a>" (t ++ rest) =
    (splitFirst "</a>" rest).map fun parts => (t ++ parts.1, parts.2)

/-- Nothing ends no link. -/
theorem skipsLinkEnd_nil : SkipsLinkEnd [] := by
  intro rest
  simp

/-- Two texts that end no link end none together. -/
theorem SkipsLinkEnd.append {s t : Text} (first : SkipsLinkEnd s) (second : SkipsLinkEnd t) :
    SkipsLinkEnd (s ++ t) := by
  intro rest
  rw [List.append_assoc, first, second, Option.map_map]
  simp only [Function.comp_def, List.append_assoc]

/-- A character at which no end of a link can start is skipped. -/
theorem splitFirst_cons_of_not {c : Char} {t : Text} (other : startsWith "</a>" (c :: t) = false) :
    splitFirst "</a>" (c :: t) =
      (splitFirst "</a>" t).map fun parts => (c :: parts.1, parts.2) := by
  have none : dropPrefix? "</a>" (c :: t) = none :=
    Option.not_isSome_iff_eq_none.mp (by rw [← startsWith, other]; decide)
  rw [splitFirst, none]

/-- A text without tags ends no link. -/
theorem skipsLinkEnd_of_not_mem {t : Text} (tagless : '<' ∉ t) : SkipsLinkEnd t := by
  intro rest
  induction t with
  | nil => exact skipsLinkEnd_nil rest
  | cons c t ih =>
    obtain ⟨first, others⟩ := not_or.mp (List.mem_cons.not.mp tagless)
    have other : startsWith "</a>" (c :: (t ++ rest)) = false := by
      change (if '<' = c then _ else none : Option Text).isSome = false
      rw [if_neg first]
      rfl
    rw [List.cons_append, splitFirst_cons_of_not other, ih others, Option.map_map]
    rfl

/-- A tag with another name ends no link. -/
theorem skipsLinkEnd_tag {name : Text} (tagless : '<' ∉ name)
    (other : ∀ rest, startsWith ['/', 'a', '>'] (name ++ rest) = false) :
    SkipsLinkEnd ('<' :: name) := by
  intro rest
  have here : startsWith "</a>" ('<' :: (name ++ rest)) = false := other rest
  rw [List.cons_append, splitFirst_cons_of_not here, skipsLinkEnd_of_not_mem tagless,
    Option.map_map]
  rfl

/-- An element other than a link ends no link if its content ends none. -/
theorem skipsLinkEnd_elementHtml {name content : Text} (known : name ∈ inlineElements)
    (other : name ≠ "a") (inside : SkipsLinkEnd content) :
    SkipsLinkEnd (elementHtml name content) := by
  have letters : ∀ name ∈ inlineElements, '<' ∉ name ∧ '>' ∉ name ∧ '/' ∉ name := by decide
  obtain ⟨noTag, noEnd, noSlash⟩ := letters name known
  have opens : SkipsLinkEnd ('<' :: (name ++ ">")) := by
    refine skipsLinkEnd_tag (by simp [noTag]) fun rest => startsWith_of_head ?_ _
    cases name with
    | nil => exact by simp
    | cons c name =>
      intro slash
      have same : c = '/' := Option.some.inj slash
      exact noSlash (by simp [same])
  have closes : SkipsLinkEnd ('<' :: ('/' :: name ++ ">")) := by
    refine skipsLinkEnd_tag (by simp [noTag]) fun rest => ?_
    rw [Bool.eq_false_iff, ne_eq, startsWith_iff]
    intro start
    have named : "a".toList ++ ['>'] <+: name ++ '>' :: rest := by
      simpa using start
    exact other ((isPrefix_append_singleton_iff (by decide) noEnd rest).mp named).symm
  have whole : elementHtml name content =
      '<' :: (name ++ ">") ++ content ++ '<' :: ('/' :: name ++ ">") := by
    simp [elementHtml]
  rw [whole]
  exact (opens.append inside).append closes

/-- What a link holds ends where the link ends. -/
theorem endsLink_of_skips {text : Text} (skips : SkipsLinkEnd text) :
    endsLink (text ++ "</a>") = true := by
  have found : splitFirst "</a>" (text ++ "</a>") = some (text, []) := by
    rw [skips]
    simp [splitFirst, dropPrefix?]
  rw [endsLink, found]
  rfl

/-! ## The target of a link -/

/-- A target stands behind a blank, the name of the attribute, a quote and a number sign. -/
theorem eq_of_hrefHere? {t : Text} {link : AliasLink} (found : hrefHere? t = some link) :
    ∃ blank quote rest, isBlank blank = true ∧ isTargetChar.isQuote quote = true ∧
      t = blank :: ("href=" ++ quote :: '#' :: rest) := by
  unfold hrefHere? at found
  split at found
  · rename_i blank behind
    split at found
    · rename_i isBlank
      split at found
      · rename_i quote rest dropped
        split at found
        · dsimp only at found
          split at found
          · rename_i quotes
            simp only [Bool.and_eq_true] at quotes
            exact ⟨blank, quote, rest, isBlank, quotes.1.1, by
              rw [dropPrefix?_eq_some_iff.mp dropped]⟩
          · cases found
        · cases found
      · cases found
    · cases found
  · cases found

/-- No target starts at a character that is no blank. -/
theorem hrefHere?_of_visible {c : Char} (visible : isBlank c = false) (t : Text) :
    hrefHere? (c :: t) = none := by
  unfold hrefHere?
  simp [visible]

/-- A character at which no target starts may be put before a text that holds none. -/
theorem findHref?_cons_eq_none {c : Char} {t : Text} (here : hrefHere? (c :: t) = none)
    (rest : findHref? t = none) : findHref? (c :: t) = none := by
  rw [findHref?.eq_def]
  simp only [here, rest, Option.map_none]

/-- A text that holds no target, wherever one would start in it, may be put before another. -/
theorem findHref?_append_eq_none {s t : Text}
    (each : ∀ u, u ≠ [] → u <:+ s → hrefHere? (u ++ t) = none) (rest : findHref? t = none) :
    findHref? (s ++ t) = none := by
  induction s with
  | nil => rwa [List.nil_append]
  | cons c s ih =>
    refine findHref?_cons_eq_none (each (c :: s) (List.cons_ne_nil c s) (List.suffix_refl _)) ?_
    exact ih fun u present suffix => each u present (suffix.trans (List.suffix_cons c s))

/-- A text without blanks may be put before another that holds no target. -/
theorem findHref?_append_of_visible {s t : Text} (visible : ∀ c ∈ s, isBlank c = false)
    (rest : findHref? t = none) : findHref? (s ++ t) = none := by
  refine findHref?_append_eq_none (fun u present suffix => ?_) rest
  cases u with
  | nil => exact absurd rfl present
  | cons c u => exact hrefHere?_of_visible (visible c (suffix.subset List.mem_cons_self)) _

/-- A value without quotes and the quote that ends it may be put before a text that holds no target,
unless a number sign follows the quote. -/
theorem findHref?_value {value rest : Text} (plain : ∀ c ∈ value, isTargetChar.isQuote c = false)
    (follows : rest.head? ≠ some '#') (later : findHref? rest = none) :
    findHref? (value ++ '"' :: rest) = none := by
  have closing : findHref? ('"' :: rest) = none :=
    findHref?_append_of_visible (s := ['"']) (forall_mem_of_all (by decide)) later
  refine findHref?_append_eq_none (fun u _ suffix => ?_) closing
  rw [Option.eq_none_iff_forall_ne_some]
  intro link found
  obtain ⟨blank, quote, inside, isBlank, isQuote, same⟩ := eq_of_hrefHere? found
  have outside : ∀ c ∈ blank :: "href=".toList, isTargetChar.isQuote c = false := by
    refine List.forall_mem_cons.mpr ⟨?_, forall_mem_of_all (by decide)⟩
    rw [Bool.eq_false_iff]
    intro quoted
    rcases Bool.or_eq_true_iff.mp quoted with double | single
    · rw [beq_iff_eq.mp double] at isBlank
      exact absurd isBlank (by decide)
    · rw [beq_iff_eq.mp single] at isBlank
      exact absurd isBlank (by decide)
  -- both sides are compared up to their first quote
  have upTo {s t : Text} {q : Char} (bare : ∀ c ∈ s, isTargetChar.isQuote c = false)
      (quoted : isTargetChar.isQuote q = true) :
      (s ++ q :: t).takeWhile (!isTargetChar.isQuote ·) = s :=
    takeWhile_append_of_head (fun c member => by rw [bare c member]; rfl) fun c first => by
      rw [← Option.mem_some_iff.mp first, quoted]
      rfl
  have same' : u ++ '"' :: rest = (blank :: "href=".toList) ++ quote :: '#' :: inside := same
  have ends : u = blank :: "href=".toList := by
    rw [← upTo (fun c member => plain c (suffix.subset member)) (show isTargetChar.isQuote '"' by
      decide), same', upTo outside isQuote]
  rw [ends] at same'
  have behind := (List.cons.inj (List.append_cancel_left same')).2
  exact follows (by rw [behind]; rfl)

/-! ## Attributes -/

/-- A value that is escaped has no quotes. -/
theorem isQuote_escapeAttribute (t : Text) :
    ∀ c ∈ escapeAttribute t, isTargetChar.isQuote c = false := by
  intro c member
  have double : c ≠ '"' := by
    rintro rfl
    exact (unmarked_escapeAttribute t).quote_not_mem member
  have single : c ≠ '\'' := by
    rintro rfl
    exact apostrophe_not_mem_escapeAttribute t member
  simp [isTargetChar.isQuote, double, single]

/-- A title holds no target, whatever it says. -/
theorem findHref?_titleHtml (title : Text) {rest : Text} (follows : rest.head? ≠ some '#')
    (later : findHref? rest = none) : findHref? (titleHtml title ++ rest) = none := by
  rw [titleHtml]
  split
  · rwa [List.nil_append]
  · have written : attributeHtml "title" (escapeAttribute title) ++ rest =
        ' ' :: ("title=\"" ++ (escapeAttribute title ++ '"' :: rest)) := by
      simp [attributeHtml]
    rw [written]
    refine findHref?_cons_eq_none rfl (findHref?_append_of_visible (forall_mem_of_all (by decide)) ?_)
    exact findHref?_value (isQuote_escapeAttribute title) follows later

/-- What is added to the tag of a link out of the site holds no target. -/
theorem externalHtml_spec (link : Link) (page : Page) :
    findHref? (link.externalHtml page) = none ∧ (link.externalHtml page).head? ≠ some '#' := by
  have each (newTab nofollow : Bool) :
      findHref? (Url.externalAttributes newTab nofollow) = none ∧
        (Url.externalAttributes newTab nofollow).head? ≠ some '#' := by
    cases newTab <;> cases nofollow <;> decide
  unfold Link.externalHtml
  dsimp only
  split
  · exact each _ _
  · decide

/-! ## Links into the document -/

/-- A target stays in its quotes. -/
theorem unmarked_of_isTargetChar {target : Text} (inside : ∀ c ∈ target, isTargetChar c = true) :
    Unmarked ('#' :: target) := by
  refine List.forall_mem_cons.mpr ⟨by decide, fun c member => ?_⟩
  have isTarget := inside c member
  simp only [isTargetChar, isTargetChar.isQuote, Bool.and_eq_true, bne_iff_ne, ne_eq,
    Bool.not_eq_true', Bool.or_eq_false_iff] at isTarget
  simp [isMark, isTarget]

section First

variable {target more : Text} (present : target ≠ [])
  (inside : ∀ c ∈ target, isTargetChar c = true ∧ isBlank c = false)

include present inside

/-- A target between its quotes is read up to the second one. -/
theorem hrefHere?_first : hrefHere? (' ' :: ("href=\"#" ++ target ++ '"' :: more)) =
    some ⟨" href=\"#", target, '"' :: more⟩ := by
  have dropped : dropPrefix? "href=" ("href=\"#" ++ target ++ '"' :: more) =
      some ('"' :: '#' :: (target ++ '"' :: more)) := rfl
  have taken : (target ++ '"' :: more).takeWhile isTargetChar = target :=
    takeWhile_append_of_head (fun c member => (inside c member).1) (by simp [isTargetChar,
      isTargetChar.isQuote])
  have left : (target ++ '"' :: more).dropWhile isTargetChar = '"' :: more := by
    rw [List.dropWhile_append_of_pos fun c member => (inside c member).1]
    exact List.dropWhile_cons_of_neg (by decide)
  have filled : target.isEmpty = false := List.isEmpty_eq_false_iff.mpr present
  unfold hrefHere?
  simp only [dropped, taken, left, filled]
  rfl

/-- The target that comes first is found if the other attributes hold none. -/
theorem hrefOf?_first (later : findHref? more = none) :
    hrefOf? (' ' :: ("href=\"#" ++ target ++ '"' :: more)) =
      some ⟨" href=\"#", target, '"' :: more⟩ := by
  have visible : ∀ c ∈ "href=\"#" ++ target, isBlank c = false := by
    intro c member
    rcases List.mem_append.mp member with start | within
    · exact forall_mem_of_all (p := fun d => isBlank d = false) (by decide) c start
    · exact (inside c within).2
  have closing : findHref? ('"' :: more) = none :=
    findHref?_append_of_visible (s := ['"']) (forall_mem_of_all (by decide)) later
  have none : findHref? ("href=\"#" ++ target ++ '"' :: more) = none :=
    findHref?_append_of_visible visible closing
  have blank : isBlank ' ' = true := by decide
  unfold hrefOf?
  simp only [blank, none, ↓reduceIte]
  exact hrefHere?_first present inside

/-- **The element of a link into the document is an alias**, with the target of the link, if nothing
in its text ends a link. -/
theorem aliasLink?_element (link : Link) (page : Page) {text : Text} (skips : SkipsLinkEnd text) :
    aliasLink? (link.element page ('#' :: target) text) = some {
      before := "<a href=\"#"
      target
      after := '"' :: (titleHtml link.title ++ link.externalHtml page ++ ">" ++ text ++ "</a>") } := by
  let attributes := attributesHtml (link.attributesTo page ('#' :: target))
  have written : attributes = ' ' :: ("href=\"#" ++ target ++ '"' ::
      (titleHtml link.title ++ link.externalHtml page)) := by
    simp only [attributes, Link.attributesTo]
    rw [titleHtml_eq, externalHtml_eq, attributesHtml_append, attributesHtml_append,
      attributesHtml_singleton]
    simp [attributeHtml]
  obtain ⟨noTarget, follows⟩ := externalHtml_spec link page
  have found : hrefOf? attributes =
      some ⟨" href=\"#", target, '"' :: (titleHtml link.title ++ link.externalHtml page)⟩ := by
    rw [written]
    exact hrefOf?_first present inside (findHref?_titleHtml link.title follows noTarget)
  have unmarked := link.areUnmarked_attributesTo page
    (unmarked_of_isTargetChar fun c member => (inside c member).1)
  have plain : ∀ c ∈ attributes, (c != '<' && c != '>') = true := by
    intro c member
    have angle (bracket : Char) (isBracket : bracket = '<' ∨ bracket = '>') : c ≠ bracket := by
      rintro rfl
      exact not_mem_attributesHtml unmarked isBracket member
    simp [angle '<' (.inl rfl), angle '>' (.inr rfl)]
  have whole : link.element page ('#' :: target) text =
      "<a" ++ (attributes ++ '>' :: (text ++ "</a>")) := by
    rw [Link.element_eq_attributesTo]
    simp [startTag, endTag, attributes]
  have taken : (attributes ++ '>' :: (text ++ "</a>")).takeWhile (fun c => c != '<' && c != '>') =
      attributes :=
    takeWhile_append_of_head plain (by simp)
  have ends : endsLink (text ++ "</a>") = true := endsLink_of_skips skips
  rw [whole, aliasLink?, dropPrefix?_append]
  simp only [bind, Option.bind_some, taken, List.drop_left, found, ends, ↓reduceIte]
  simp

end First

end MarkdownSite.Heading
