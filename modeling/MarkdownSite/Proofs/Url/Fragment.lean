import MarkdownSite.Proofs.Text.Tags
import MarkdownSite.Proofs.Url.Query

/-!
# Links into the document

A URL that is nothing but a fragment is encoded as its fragment, in which the apostrophes stand as
references. What is read from the attribute is the name that the document gives to the place, if in
this name no character stands for another.
-/

namespace MarkdownSite

open Text

/-- A place in a document, named in characters that stand for nothing else. -/
structure IsPlace (x : Text) : Prop where
  /-- There is no escape. -/
  escapes : '%' ∉ x
  /-- There is no reference. -/
  references : '&' ∉ x
  /-- There is no tag. -/
  tags : '<' ∉ x

/-- A text without tags keeps all of its characters. -/
theorem Text.stripTags_of_not_mem {t : Text} (absent : '<' ∉ t) : stripTags t = t :=
  stripTags_of_untagged fun both => absent (both.subset (by simp))

namespace Url

/-! ## Fragments -/

/-- What follows a number sign at the start is the fragment. -/
theorem parse_fragment {t : Text} (visible : ∀ c ∈ t, 32 < c.toNat) :
    Parts.parse ('#' :: t) = .ok { fragment := t } := by
  have whole : ∀ c ∈ '#' :: t, 32 < c.toNat := List.forall_mem_cons.mpr ⟨by decide, visible⟩
  have clean : cleanUrl ('#' :: t) = '#' :: t := by
    rw [cleanUrl_of_head fun c first => whole c (List.mem_of_mem_head? first)]
    exact List.filter_eq_self.mpr fun c member => isKept_of_lt (whole c member)
  have scheme : splitScheme ('#' :: t) = ([], '#' :: t) := splitScheme_of_head rfl
  have authority : splitAuthority ('#' :: t) = ([], '#' :: t) := rfl
  have tail : splitTail ('#' :: t) = ([], [], t) := by
    have cut : splitAt '#' ('#' :: t) = ([], t) := splitAt_append (List.not_mem_nil) t
    unfold splitTail
    rw [cut]
    rfl
  rw [parse_eq_ok_iff]
  unfold start following
  rw [clean, scheme, authority, tail]
  exact ⟨show isReadable [] = true by decide, rfl⟩

/-- The name of a place is encoded as it is, but for the characters that have to be escaped. -/
theorem encode_fragment {x : Text} (place : IsPlace x) (present : x ≠ []) :
    encode ('#' :: target x) = '#' :: escapeAttribute (percentEncode safeCharacters x) := by
  have kept : target x = percentEncode targetCharacters x := by
    rw [target, decodeStrictEntities, markdownReferences.decode_of_not_mem place.references]
  have references : '&' ∉ '#' :: target x := by
    rw [kept, List.mem_cons, mem_percentEncode_iff (by decide) (by decide) (by decide)]
    exact not_or.mpr ⟨by decide, place.references⟩
  have decoded : decodeEntities ('#' :: target x) = '#' :: target x :=
    browserReferences.decode_of_not_mem references
  have visible : ∀ c ∈ target x, 32 < c.toNat := fun c member =>
    lt_of_class (p := standsForItself targetCharacters) (by decide)
      (standsForItself_of_mem_percentEncode (by decide) member)
  have fragment : recode (target x) = percentEncode safeCharacters x := by
    rw [recode, percentDecode_target place.escapes place.references]
  have filled : percentEncode safeCharacters x ≠ [] := fun none =>
    present (percentEncode_eq_nil_iff.mp none)
  have encoded : encodeParts ('#' :: target x) =
      .ok ('#' :: percentEncode safeCharacters x) := by
    unfold encodeParts
    simp only [decoded, parse_fragment visible, bind, Except.bind, pure, Except.pure,
      List.isEmpty_nil, ↓reduceIte, fragment, show recode [] = [] from rfl]
    rw [toText_bare rfl (show hierarchicalSchemes.contains [] = false by decide) rfl]
    simp [Parts.ending, filled]
  unfold encode
  rw [encode?_eq (checkNumbers_of_not_mem references), encoded]
  rfl

/-! ## Apostrophes -/

/-- A text with references in the place of its apostrophes. -/
def withoutApostrophes (x : Text) : Text :=
  x.flatMap fun c => if c = '\'' then escapeAttributeChar c else [c]

/-- A text with references in the place of its apostrophes goes on character by character. -/
theorem withoutApostrophes_cons (c : Char) (x : Text) : withoutApostrophes (c :: x) =
    (if c = '\'' then escapeAttributeChar c else [c]) ++ withoutApostrophes x :=
  List.flatMap_cons

/-- A text without apostrophes stays as it is. -/
theorem withoutApostrophes_of_not_mem {t : Text} (absent : '\'' ∉ t) :
    withoutApostrophes t = t := by
  induction t with
  | nil => rfl
  | cons c t ih =>
    obtain ⟨first, rest⟩ := not_or.mp (List.mem_cons.not.mp absent)
    rw [withoutApostrophes_cons, if_neg (Ne.symm first), ih rest, List.singleton_append]

/-- A browser reads the references in the place of the apostrophes as these. -/
theorem decodeEntities_withoutApostrophes {x : Text} (references : '&' ∉ x) :
    decodeEntities (withoutApostrophes x) = x := by
  refine decodeEntities_flatMap fun c member => ?_
  split
  · exact .inl rfl
  · exact .inr ⟨rfl, ne_of_mem_of_not_mem member references⟩

/-- Without apostrophes no other character comes into a text than those of the references. -/
theorem not_mem_withoutApostrophes {x : Text} {c : Char} (absent : c ∉ x)
    (foreign : c ∉ escapeAttributeChar '\'') : c ∉ withoutApostrophes x := by
  intro member
  obtain ⟨d, inside, written⟩ := List.mem_flatMap.mp member
  split at written
  · rename_i apostrophe
    rw [apostrophe] at written
    exact foreign written
  · rw [List.mem_singleton.mp written] at absent
    exact absent inside

/-- References may be put in the place of apostrophes before a text is encoded, since their
characters stand for themselves. -/
theorem withoutApostrophes_percentEncode (x : Text) :
    withoutApostrophes (percentEncode safeCharacters x) =
      percentEncode safeCharacters (withoutApostrophes x) := by
  have append (s t : Text) :
      withoutApostrophes (s ++ t) = withoutApostrophes s ++ withoutApostrophes t :=
    List.flatMap_append
  induction x with
  | nil => rfl
  | cons c x ih =>
    rw [percentEncode_cons, append, withoutApostrophes_cons, percentEncode_append, ih]
    by_cases apostrophe : c = '\''
    · rw [apostrophe]
      rfl
    · have absent := not_mem_encoded_char (c := '\'') rfl (by decide) safeCharacters apostrophe
      rw [withoutApostrophes_of_not_mem absent, if_neg apostrophe, percentEncode_cons,
        show percentEncode safeCharacters [] = [] from rfl, List.append_nil]

/-- Without ampersands nothing that is encoded is escaped for an attribute but its apostrophes. -/
theorem escapeAttribute_percentEncode {x : Text} (references : '&' ∉ x) :
    escapeAttribute (percentEncode safeCharacters x) =
      percentEncode safeCharacters (withoutApostrophes x) := by
  rw [← withoutApostrophes_percentEncode]
  refine congrArg List.flatten (List.map_congr_left fun c member => ?_)
  have itself := standsForItself_of_mem_percentEncode (by decide) member
  have apart {mark : Char} (foreign : standsForItself safeCharacters mark = false) : c ≠ mark := by
    rintro rfl
    rw [itself] at foreign
    cases foreign
  have other : c ≠ '&' := by
    rintro rfl
    exact references ((mem_percentEncode_iff (by decide) (by decide) (by decide)).mp member)
  by_cases apostrophe : c = '\''
  · rw [if_pos apostrophe]
  · simp [escapeAttributeChar, escapeMarkupChar, escapeContentChar, apostrophe, other,
      apart (show standsForItself safeCharacters '"' = false by decide),
      apart (show standsForItself safeCharacters '<' = false by decide),
      apart (show standsForItself safeCharacters '>' = false by decide)]

end Url

/-! ## Places -/

namespace IsPlace

variable {x : Text} (place : IsPlace x)

include place

/-- What an attribute says of a place is, decoded, its name with references in the place of the
apostrophes. -/
theorem percentDecode_written :
    Url.percentDecode (escapeAttribute (Url.percentEncode Url.safeCharacters x)) =
      Url.withoutApostrophes x := by
  rw [Url.escapeAttribute_percentEncode place.references]
  refine (Url.percentDecode_percentEncode_eq_iff (by decide) (by decide) _).mpr ?_
  exact Url.hasEscape_of_not_mem (Url.not_mem_withoutApostrophes place.escapes (by decide))

/-- **The plain text of what an attribute says of a place is the name of the place**, but for the
blanks at its ends. -/
theorem plainText_written :
    plainText (Url.percentDecode (escapeAttribute (Url.percentEncode Url.safeCharacters x))) =
      trim x := by
  have tagless : '<' ∉ Url.withoutApostrophes x :=
    Url.not_mem_withoutApostrophes place.tags (by decide)
  rw [place.percentDecode_written, plainText, stripTags_of_not_mem tagless,
    Url.decodeEntities_withoutApostrophes place.references]

end IsPlace

end MarkdownSite
