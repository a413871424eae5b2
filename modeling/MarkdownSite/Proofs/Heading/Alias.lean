import MarkdownSite.Heading.Alias
import MarkdownSite.Proofs.Text.Basic

/-!
# Where the target of a heading that is a link stands

Recognition cuts the content of the heading in three. The middle is the target, a nonempty run of
target characters right after the number sign of a quoted `href`.
-/

namespace MarkdownSite.Heading

open Text

/-- The content is cut around the target of a quoted `href` that leads into the document. -/
structure AliasLink.CutsFrom (link : AliasLink) (content : Text) : Prop where
  /-- The parts make up the content. -/
  whole : content = link.before ++ link.target ++ link.after
  /-- The target is not empty. -/
  target_ne_nil : link.target ≠ []
  /-- The target has target characters only. -/
  target_chars : ∀ c ∈ link.target, isTargetChar c = true
  /-- An opening quote and the number sign of an `href` precede the target. -/
  opened : ∃ start blank quote, isBlank blank = true ∧ isTargetChar.isQuote quote = true ∧
    link.before = start ++ blank :: "href=" ++ [quote, '#']
  /-- A quote follows the target. -/
  closed : ∃ quote rest, isTargetChar.isQuote quote = true ∧ link.after = quote :: rest

/-- A cut of a text is a cut of the text with something before it. -/
theorem AliasLink.CutsFrom.prepend {link : AliasLink} {content : Text}
    (cut : link.CutsFrom content) (start : Text) :
    ({ link with before := start ++ link.before } : AliasLink).CutsFrom (start ++ content) where
  whole := by simp [cut.whole]
  target_ne_nil := cut.target_ne_nil
  target_chars := cut.target_chars
  opened := by
    obtain ⟨first, blank, quote, isBlank, isQuote, opened⟩ := cut.opened
    exact ⟨start ++ first, blank, quote, isBlank, isQuote, by simp [opened]⟩
  closed := cut.closed

/-- A cut of a text is a cut of the text with something after it. -/
theorem AliasLink.CutsFrom.append {link : AliasLink} {content : Text}
    (cut : link.CutsFrom content) (rest : Text) :
    ({ link with after := link.after ++ rest } : AliasLink).CutsFrom (content ++ rest) where
  whole := by simp [cut.whole]
  target_ne_nil := cut.target_ne_nil
  target_chars := cut.target_chars
  opened := cut.opened
  closed := by
    obtain ⟨quote, tail, isQuote, closed⟩ := cut.closed
    exact ⟨quote, tail ++ rest, isQuote, by simp [closed]⟩

/-- The target right here is cut out of the text. -/
theorem cutsFrom_hrefHere? {t : Text} {link : AliasLink} (found : hrefHere? t = some link) :
    link.CutsFrom t := by
  unfold hrefHere? at found
  split at found
  · rename_i blank rest
    split at found
    · rename_i isBlank
      split at found
      · rename_i quote inside dropped
        split at found
        · rename_i closing after ended
          simp only at found
          split at found
          · rename_i quotes
            cases found
            simp only [Bool.and_eq_true, Bool.not_eq_eq_eq_not, Bool.not_true,
              List.isEmpty_eq_false_iff] at quotes
            have joined := List.takeWhile_append_dropWhile (p := isTargetChar) (l := inside)
            rw [ended] at joined
            exact {
              whole := by
                rw [dropPrefix?_eq_some_iff.mp dropped]
                simp [joined]
              target_ne_nil := quotes.2
              target_chars := fun c member => List.all_eq_true.mp List.all_takeWhile c member
              opened := ⟨[], blank, quote, isBlank, quotes.1.1, rfl⟩
              closed := ⟨closing, after, quotes.1.2, rfl⟩ }
          · cases found
        · cases found
      · cases found
    · cases found
  · cases found

/-- The first target of a text is cut out of it. -/
theorem cutsFrom_findHref? {t : Text} {link : AliasLink} (found : findHref? t = some link) :
    link.CutsFrom t := by
  induction t generalizing link with
  | nil =>
    rw [findHref?.eq_def] at found
    cases found
  | cons c t ih =>
    rw [findHref?.eq_def] at found
    simp only at found
    split at found
    · rename_i here first
      cases found
      exact cutsFrom_hrefHere? first
    · obtain ⟨later, inside, rfl⟩ := Option.map_eq_some_iff.mp found
      exact (ih inside).prepend [c]

/-- The target among attributes is cut out of them. -/
theorem cutsFrom_hrefOf? {attributes : Text} {link : AliasLink}
    (found : hrefOf? attributes = some link) : link.CutsFrom attributes := by
  unfold hrefOf? at found
  split at found
  · rename_i c t
    split at found
    · split at found
      · rename_i later inside
        cases found
        exact (cutsFrom_findHref? inside).prepend [c]
      · exact cutsFrom_hrefHere? found
    · cases found
  · cases found

/-- The content of a heading that is a link: a tag whose attributes lead into the document, and what
ends the link. -/
theorem exists_tag_of_aliasLink? {content : Text} {link : AliasLink}
    (found : aliasLink? content = some link) : ∃ attributes inside inner,
      content = "<a" ++ attributes ++ '>' :: inside ∧ '>' ∉ attributes ∧
      hrefOf? attributes = some inner ∧
      link = { before := "<a" ++ inner.before, target := inner.target,
               after := inner.after ++ '>' :: inside } := by
  unfold aliasLink? at found
  obtain ⟨rest, dropped, found⟩ := Option.bind_eq_some_iff.mp found
  simp only at found
  split at found
  · rename_i inside opened
    obtain ⟨inner, named, found⟩ := Option.bind_eq_some_iff.mp found
    split at found
    · cases found
      have joined : rest = rest.takeWhile (fun c => c != '<' && c != '>') ++ '>' :: inside := by
        rw [← opened, drop_length_takeWhile, List.takeWhile_append_dropWhile]
      refine ⟨_, inside, inner, ?_, fun member => ?_, named, rfl⟩
      · rw [dropPrefix?_eq_some_iff.mp dropped, List.append_assoc, ← joined]
      · exact absurd (List.all_eq_true.mp List.all_takeWhile _ member) (by decide)
    · cases found
  · cases found

/-- **The link that a heading is cuts the content of the heading around its target.** -/
theorem cutsFrom_aliasLink? {content : Text} {link : AliasLink}
    (found : aliasLink? content = some link) : link.CutsFrom content := by
  obtain ⟨attributes, inside, inner, rfl, -, named, rfl⟩ := exists_tag_of_aliasLink? found
  rw [List.append_assoc]
  exact ((cutsFrom_hrefOf? named).append ('>' :: inside)).prepend "<a"

end MarkdownSite.Heading
