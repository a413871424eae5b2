import Mathlib.Data.List.Basic
import MarkdownSite.Text.Markup

/-!
# Text outside of tags

A text is cut at its tags: the first of them starts at the first `<` and ends at the next `>`, the
others are found in the same way in what follows, until no `<` is left with a `>` anywhere after it.
Without its tags a text is what stands outside of them. None of the pieces before a tag has a `<`,
so no two pieces can join to a tag that was not there.
-/

namespace MarkdownSite.Text

open scoped List

/-! ## Texts without tags -/

/-- No `>` stands anywhere after a `<`. -/
def Untagged (t : Text) : Prop := ¬['<', '>'] <+ t

/-- One more character starts a tag only if it is a `<` with a `>` after it. -/
theorem untagged_cons {c : Char} {t : Text} :
    Untagged (c :: t) ↔ Untagged t ∧ (c = '<' → '>' ∉ t) := by
  rw [Untagged, List.cons_sublist_cons', List.singleton_sublist, not_or, not_and, eq_comm]
  rfl

/-- What has no `<` starts no tag, whatever follows it. -/
theorem untagged_append {before : Text} (unopened : '<' ∉ before) (t : Text) :
    Untagged (before ++ t) ↔ Untagged t := by
  induction before with
  | nil => rfl
  | cons c before ih =>
    obtain ⟨other, others⟩ := not_or.mp (List.mem_cons.not.mp unopened)
    rw [List.cons_append, untagged_cons, ih others]
    exact and_iff_left fun same => absurd same.symm other

/-! ## Removing tags -/

/-- What follows the end of a tag that has no other. -/
theorem afterTagEnd?_append {body : Text} (unclosed : '>' ∉ body) (rest : Text) :
    afterTagEnd? (body ++ '>' :: rest) = some rest := by
  induction body with
  | nil => rfl
  | cons c body ih =>
    rw [List.mem_cons, not_or] at unclosed
    rw [List.cons_append, afterTagEnd?, if_neg (Ne.symm unclosed.1), ih unclosed.2]

/-- Where no `>` is left, no tag ends. -/
theorem afterTagEnd?_of_not_mem {t : Text} (unclosed : '>' ∉ t) : afterTagEnd? t = none := by
  induction t with
  | nil => rfl
  | cons c t ih =>
    rw [List.mem_cons, not_or] at unclosed
    rw [afterTagEnd?, if_neg (Ne.symm unclosed.1), ih unclosed.2]

/-- A tag is removed from its `<` to the first `>` after it. -/
theorem stripTags_tag {inside : Text} (unclosed : '>' ∉ inside) (rest : Text) :
    stripTags ('<' :: inside ++ '>' :: rest) = stripTags rest := by
  have found := afterTagEnd?_append unclosed rest
  rw [List.cons_append, stripTags, if_pos rfl]
  split
  · rename_i after ends
    rw [found] at ends
    cases ends
    rfl
  · rename_i endless
    rw [found] at endless
    cases endless

/-- What has no `<` stays, whatever follows it. -/
theorem stripTags_append {before : Text} (unopened : '<' ∉ before) (t : Text) :
    stripTags (before ++ t) = before ++ stripTags t := by
  induction before with
  | nil => rfl
  | cons c before ih =>
    obtain ⟨other, others⟩ := not_or.mp (List.mem_cons.not.mp unopened)
    rw [List.cons_append, stripTags, if_neg (Ne.symm other), ih others]
    rfl

/-- A text without tags stays as it is. -/
theorem stripTags_of_untagged {t : Text} (untagged : Untagged t) : stripTags t = t := by
  induction t with
  | nil => rw [stripTags]
  | cons c t ih =>
    obtain ⟨later, unclosed⟩ := untagged_cons.mp untagged
    rw [stripTags]
    split
    · rename_i opened
      have endless := afterTagEnd?_of_not_mem (unclosed opened)
      split
      · rename_i after ends
        rw [endless] at ends
        cases ends
      · rw [ih later]
    · rw [ih later]

/-! ## Cutting a text at its tags -/

/-- A text cut at its tags. -/
structure TagCut where
  /-- The tags without the marks at their ends, each with the text before it. -/
  tags : List (Text × Text)
  /-- What follows the last tag. -/
  rest : Text
  /-- The text before a tag starts no other. -/
  unopened : ∀ tag ∈ tags, '<' ∉ tag.1
  /-- A tag ends at the first `>`. -/
  unclosed : ∀ tag ∈ tags, '>' ∉ tag.2
  /-- No tag is left. -/
  untagged : Untagged rest

namespace TagCut

/-- The text before a tag, and the tag. -/
def piece (tag : Text × Text) : Text := tag.1 ++ '<' :: tag.2 ++ ['>']

/-- The text that is cut. -/
def whole (cut : TagCut) : Text := cut.tags.flatMap piece ++ cut.rest

/-- What stands outside of the tags, in order. -/
def outside (cut : TagCut) : Text := cut.tags.flatMap Prod.fst ++ cut.rest

/-- The cut of a text with one more tag at its start. -/
def cons (before inside : Text) (unopened : '<' ∉ before) (unclosed : '>' ∉ inside)
    (cut : TagCut) : TagCut where
  tags := (before, inside) :: cut.tags
  rest := cut.rest
  unopened := List.forall_mem_cons.mpr ⟨unopened, cut.unopened⟩
  unclosed := List.forall_mem_cons.mpr ⟨unclosed, cut.unclosed⟩
  untagged := cut.untagged

/-- Every text can be cut at its tags. -/
theorem exists_whole (t : Text) : ∃ cut : TagCut, cut.whole = t := by
  induction length : t.length using Nat.strongRecOn generalizing t with
  | _ n ih =>
    have uncut (untagged : Untagged t) : ∃ cut : TagCut, cut.whole = t :=
      ⟨⟨[], t, by simp, by simp, untagged⟩, rfl⟩
    by_cases opens : '<' ∈ t
    · obtain ⟨before, tail, rfl, unopened⟩ := List.eq_append_cons_of_mem opens
      by_cases closes : '>' ∈ tail
      · obtain ⟨inside, rest, rfl, unclosed⟩ := List.eq_append_cons_of_mem closes
        have shorter : rest.length < n := by
          simp only [List.length_append, List.length_cons] at length
          omega
        obtain ⟨cut, same⟩ := ih rest.length shorter rest rfl
        refine ⟨cut.cons before inside unopened unclosed, ?_⟩
        rw [← same]
        simp [whole, cons, piece]
      · exact uncut ((untagged_append unopened _).mpr (untagged_cons.mpr
          ⟨fun both => closes (both.subset (by simp)), fun _ => closes⟩))
    · exact uncut fun both => opens (both.subset (by simp))

/-- What stands outside of the tags is what is left without them. -/
theorem stripTags_whole (cut : TagCut) : stripTags cut.whole = cut.outside := by
  obtain ⟨tags, rest, unopened, unclosed, untagged⟩ := cut
  unfold whole outside
  dsimp only
  induction tags with
  | nil => exact stripTags_of_untagged untagged
  | cons tag tags ih =>
    obtain ⟨before, others⟩ := List.forall_mem_cons.mp unopened
    obtain ⟨inside, ends⟩ := List.forall_mem_cons.mp unclosed
    calc stripTags ((tag :: tags).flatMap piece ++ rest)
        = stripTags (tag.1 ++ ('<' :: tag.2 ++ '>' :: (tags.flatMap piece ++ rest))) := by
          simp [piece]
      _ = tag.1 ++ stripTags (tags.flatMap piece ++ rest) := by
          rw [stripTags_append before, stripTags_tag inside]
      _ = (tag :: tags).flatMap Prod.fst ++ rest := by
          rw [ih others ends, List.flatMap_cons, List.append_assoc]

/-- The pieces outside of the tags make up no tag. -/
theorem untagged_outside (cut : TagCut) : Untagged cut.outside := by
  have unopened : '<' ∉ cut.tags.flatMap Prod.fst := by
    intro member
    obtain ⟨tag, listed, inside⟩ := List.mem_flatMap.mp member
    exact cut.unopened tag listed inside
  exact (untagged_append unopened _).mpr cut.untagged

/-- What stands outside of the tags are characters of the text, in their order. -/
theorem outside_sublist (cut : TagCut) : cut.outside <+ cut.whole := by
  unfold outside whole
  refine List.Sublist.append ?_ (List.Sublist.refl _)
  induction cut.tags with
  | nil => exact List.Sublist.refl _
  | cons tag tags ih =>
    have own : tag.1 <+ piece tag := by
      rw [piece, List.append_assoc]
      exact List.sublist_append_left _ _
    rw [List.flatMap_cons, List.flatMap_cons]
    exact own.append ih

end TagCut

/-- **Without its tags a text has none.** What is left is the text outside of the tags, every
character of it and in order, so that no `<` has a `>` anywhere after it and a second removal finds
nothing. -/
theorem stripTags_leaves_no_tag (content : Text) :
    Untagged (stripTags content) ∧ stripTags (stripTags content) = stripTags content ∧
      stripTags content <+ content ∧
      ∃ cut : TagCut, cut.whole = content ∧ stripTags content = cut.outside := by
  obtain ⟨cut, rfl⟩ := TagCut.exists_whole content
  have outside := cut.stripTags_whole
  rw [outside]
  exact ⟨cut.untagged_outside, stripTags_of_untagged cut.untagged_outside, cut.outside_sublist,
    cut, rfl, rfl⟩

/-- Of brackets one inside another and a bracket that nothing ends, the tags are removed that are
read from the left, and nothing joins to a new one. -/
example : stripTags "a<<b>c>d<e" = "ac>d<e" := by decide +kernel

end MarkdownSite.Text
