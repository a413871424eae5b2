import MarkdownSite.Node.Inline
import MarkdownSite.Proofs.Url.Hidden
import MarkdownSite.Proofs.Url.Spelling
import MarkdownSite.Proofs.Url.Stable

/-!
# URLs of mail addresses

The URL of a mail address is read as one whose parts are those of the address: what follows two
slashes at its start is an authority, and marks divide the rest. So it is encoded as the address
exactly if the address has no escape, no mark opens an empty part and what follows the authority has
only characters that stand for themselves.
-/

namespace MarkdownSite.Url

open Text

/-! ## Characters -/

/-- A character of the mail addresses that may stand between angle brackets. -/
def isMailChar (c : Char) : Bool :=
  c.isAlphanum || List.contains ".!#$%&'*+/=?^_\x60\x7b|\x7d~-@".toList c

/-- The characters of mail addresses can be printed, and none of them ends a reference. -/
theorem isMailChar_spec {c : Char} (mail : isMailChar c = true) : IsPrintable c ∧ c ≠ ';' := by
  have narrow : c.toNat < 128 := by
    rcases Bool.or_eq_true_iff.mp mail with letter | listed
    · exact toNat_lt_of_isAlphanum letter
    · exact forall_mem_of_all (p := fun d => d.toNat < 128) (by decide) c
        (List.contains_iff_mem.mp listed)
  have checked : isMailChar c = true → (32 ≤ c.toNat ∧ c.toNat < 127) ∧ c ≠ ';' :=
    of_toNat_lt narrow (by decide +kernel)
  exact checked mail

/-- A part of a text without escapes has none. -/
theorem hasEscape_append {s t : Text} (plain : hasEscape (s ++ t) = false) :
    hasEscape s = false ∧ hasEscape t = false := by
  induction s with
  | nil => exact ⟨rfl, plain⟩
  | cons c s ih =>
    rw [List.cons_append, hasEscape_cons, Bool.or_eq_false_iff] at plain
    obtain ⟨here, later⟩ := ih plain.2
    refine ⟨?_, later⟩
    rw [hasEscape_cons, here, Bool.or_false, Bool.eq_false_iff, ne_eq, startsEscape_iff]
    rintro ⟨a, b, rest, percent, rfl, digits⟩
    have still : startsEscape (c :: (a :: b :: rest ++ t)) = true :=
      startsEscape_iff.mpr ⟨a, b, rest ++ t, percent, rfl, digits⟩
    rw [plain.1] at still
    cases still

/-! ## Targets -/

section Target

variable {a : Text} (unclosed : ';' ∉ a)

include unclosed

/-- The target of a text without semicolons is escaped, and nothing else. -/
theorem target_of_unclosed : target a = percentEncode targetCharacters a := by
  rw [target, decodeStrictEntities_of_unclosed unclosed]

/-- The scheme of mail addresses stands before the target of the address. -/
theorem target_mailScheme : target (mailScheme ++ a) = mailScheme ++ target a := by
  have both : ';' ∉ mailScheme ++ a := by
    rw [List.mem_append, not_or]
    exact ⟨by decide, unclosed⟩
  rw [target_of_unclosed unclosed, target_of_unclosed both, percentEncode_append]
  rfl

end Target

/-! ## Parts -/

/-- The parts of the URL of a mail address. -/
def mailParts (a : Text) : Parts :=
  let tail := splitTail (percentEncode targetCharacters (splitAuthority a).2)
  { scheme := "mailto"
    authority := percentEncode targetCharacters (splitAuthority a).1
    path := tail.1
    query := tail.2.1
    fragment := tail.2.2 }

/-- A text has an authority after two slashes at its start, or it has none. -/
theorem splitAuthority_cases (a : Text) :
    (a = "//" ++ (splitAuthority a).1 ++ (splitAuthority a).2 ∧
        (∀ c ∈ (splitAuthority a).1, isInner c = true) ∧
        ∀ c ∈ (splitAuthority a).2.head?, endsAuthority c = true) ∨
      (¬"//".toList <+: a ∧ splitAuthority a = ([], a)) := by
  by_cases slashes : "//".toList <+: a
  · obtain ⟨rest, rfl⟩ := slashes
    have split : splitAuthority ("//" ++ rest) = (rest.takeWhile isInner, rest.dropWhile isInner) :=
      rfl
    left
    rw [split, List.append_assoc, List.takeWhile_append_dropWhile]
    refine ⟨rfl, fun c member => List.all_eq_true.mp List.all_takeWhile c member, fun c first => ?_⟩
    have ends := List.head?_dropWhile_not isInner rest
    rw [Option.mem_def.mp first] at ends
    simpa [isInner] using ends
  · exact .inr ⟨slashes, splitAuthority_of_not slashes⟩

/-- Characters that are escaped in a target can be seen. -/
theorem visible_percentEncode (t : Text) : ∀ c ∈ percentEncode targetCharacters t, 32 < c.toNat :=
  fun _ member => lt_of_class (p := standsForItself targetCharacters) (by decide)
    (standsForItself_of_mem_percentEncode (by decide) member)

/-- An authority ends where it would end in a target. -/
theorem endsAuthority_percentEncode {t : Text} (ends : ∀ c ∈ t.head?, endsAuthority c = true) :
    ∀ c ∈ (percentEncode targetCharacters t).head?, endsAuthority c = true := by
  intro c first
  cases t with
  | nil => cases first
  | cons d t =>
    have mark : endsAuthority d = true := ends d rfl
    obtain ⟨-, -, itself, -⟩ := target_mark_of_endsAuthority mark
    rw [percentEncode_cons, if_pos itself] at first
    cases first
    exact mark

/-- The URL of a mail address is read up to the same places as the address. -/
theorem start_mail (a : Text) :
    start (mailScheme ++ percentEncode targetCharacters a) =
        ("mailto".toList, percentEncode targetCharacters (splitAuthority a).1) ∧
      following (mailScheme ++ percentEncode targetCharacters a) =
        percentEncode targetCharacters (splitAuthority a).2 := by
  have valid : IsScheme "mailto" := .inr (by decide)
  rcases splitAuthority_cases a with ⟨whole, inner, ends⟩ | ⟨slashless, none⟩
  · let authority := percentEncode targetCharacters (splitAuthority a).1
    let rest := percentEncode targetCharacters (splitAuthority a).2
    have written : mailScheme ++ percentEncode targetCharacters a =
        origin "mailto" authority ++ rest := by
      rw [whole, percentEncode_append, percentEncode_append]
      rfl
    have stops : ∀ c ∈ rest.head?, endsAuthority c = true := endsAuthority_percentEncode ends
    have kept : ∀ c ∈ authority, isInner c = true ∧ isKept c = true := by
      intro c member
      refine ⟨?_, isKept_of_lt (visible_percentEncode _ c member)⟩
      by_contra outer
      have mark : endsAuthority c = true := by simpa [isInner] using outer
      obtain ⟨noDigit, plain, itself, -⟩ := target_mark_of_endsAuthority mark
      exact outer (inner c ((mem_percentEncode_iff noDigit plain itself).mp member))
    rw [written, start_origin_append valid _ stops, start_origin_of_read valid kept,
      following_origin valid _ (visible_percentEncode _) stops,
      List.filter_eq_self.mpr fun c member => (kept c member).2,
      List.dropWhile_eq_nil_iff.mpr fun c member => (kept c member).1]
    exact ⟨rfl, rfl⟩
  · have plain : ¬"//".toList <+: percentEncode targetCharacters a := by
      rwa [isPrefix_percentEncode (forall_mem_of_all (by decide))]
    have clean : cleanUrl (mailScheme ++ percentEncode targetCharacters a) =
        "mailto" ++ ':' :: percentEncode targetCharacters a := by
      have kept : (percentEncode targetCharacters a).filter isKept =
          percentEncode targetCharacters a :=
        List.filter_eq_self.mpr fun c member => isKept_of_lt (visible_percentEncode a c member)
      have cleaned := cleanUrl_scheme valid (by decide) (percentEncode targetCharacters a)
      rwa [kept] at cleaned
    rw [none]
    exact start_of_splitScheme (by rw [clean, splitScheme_append valid (by decide)]) plain

/-- The URL of a mail address is read as its parts. -/
theorem parse_mail (a : Text) :
    Parts.parse (mailScheme ++ percentEncode targetCharacters a) = .ok (mailParts a) := by
  obtain ⟨started, follows⟩ := start_mail a
  obtain ⟨opening, closing⟩ := bracket_not_mem_target (splitAuthority a).1
  rw [parse_eq_ok_iff, started, follows]
  exact ⟨(isReadable_iff (isAscii_target _) (.inl opening)).mpr ⟨opening, closing⟩, rfl⟩

/-! ## The URL as it is encoded -/

/-- The URL of an address is encoded as the address is spelled: nothing in it is decoded, escaped or
left out. -/
structure KeepsSpelling (a : Text) : Prop where
  /-- There is no escape. -/
  escapes : hasEscape a = false
  /-- Two slashes at the start announce an authority, or two more follow. -/
  authority : startsWith "//" a = true →
    (splitAuthority a).1 ≠ [] ∨ startsWith "//" (splitAuthority a).2 = true
  /-- All that follows an authority stands for itself. -/
  characters : ∀ c ∈ (splitAuthority a).2, standsForItself safeCharacters c = true
  /-- No mark opens an empty part. -/
  marks : rejoin (splitAuthority a).2 = (splitAuthority a).2

instance (a : Text) : Decidable (KeepsSpelling a) :=
  have := List.decidableBAll (fun c => standsForItself safeCharacters c = true) (splitAuthority a).2
  decidable_of_iff (hasEscape a = false ∧ (startsWith "//" a = true →
      (splitAuthority a).1 ≠ [] ∨ startsWith "//" (splitAuthority a).2 = true) ∧
      (∀ c ∈ (splitAuthority a).2, standsForItself safeCharacters c = true) ∧
      rejoin (splitAuthority a).2 = (splitAuthority a).2)
    ⟨fun ⟨escapes, authority, characters, marks⟩ => ⟨escapes, authority, characters, marks⟩,
      fun ⟨escapes, authority, characters, marks⟩ => ⟨escapes, authority, characters, marks⟩⟩

/-- What is written of a text without escapes that is cut and put together again is the text exactly
if all of it stands for itself and no mark opens an empty part. -/
theorem written_rejoin_eq_iff {t : Text} (plain : hasEscape t = false) :
    written (reread (rejoin t)) = t ↔
      (∀ c ∈ t, standsForItself safeCharacters c = true) ∧ rejoin t = t := by
  have iff := written_rejoin_iff t
  constructor
  · intro same
    have itself : ∀ c ∈ t, standsForItself safeCharacters c = true := by
      intro c member
      rw [← same] at member
      exact standsForItself_of_mem_percentEncode (by decide) member
    have own : written t = t := percentEncode_eq_self itself
    rw [own] at iff
    exact ⟨itself, (iff.mp same).2⟩
  · rintro ⟨itself, marks⟩
    have own : written t = t := percentEncode_eq_self itself
    rw [own] at iff
    exact iff.mpr ⟨spelled_of_hasEscape plain, marks⟩

section Encoded

variable {a : Text}

/-- What is written after the authority of a mail address. -/
def mailTail (a : Text) : Text := written (reread (rejoin (splitAuthority a).2))

/-- What is written after the authority is written part by part. -/
theorem mailTail_eq (a authority : Text) :
    recode (mailParts a).path ++ ((mailParts a).recoded authority).ending = mailTail a :=
  recode_percentEncode (by decide) (by decide) rfl rfl (splitAuthority a).2

/-- The authority of an ASCII address without escapes is written as it is. -/
theorem writtenAuthority_mail (ascii : ∀ c ∈ a, c.toNat < 128) (plain : hasEscape a = false) :
    (mailParts a).writtenAuthority = .ok (splitAuthority a).1 := by
  by_cases empty : (splitAuthority a).1 = []
  · unfold Parts.writtenAuthority mailParts
    rw [empty]
    rfl
  · rcases splitAuthority_cases a with ⟨whole, -⟩ | ⟨-, none⟩
    · rw [whole] at plain
      have own := (hasEscape_append (hasEscape_append plain).1).2
      have narrow : isAscii (splitAuthority a).1 = true := by
        refine List.all_eq_true.mpr fun c member => decide_eq_true (ascii c ?_)
        rw [whole]
        exact List.mem_append_left _ (List.mem_append_right _ member)
      have present : (percentEncode targetCharacters (splitAuthority a).1).isEmpty = false :=
        List.isEmpty_eq_false_iff.mpr (mt percentEncode_eq_nil_iff.mp empty)
      have decoded := (percentDecode_percentEncode_eq_iff (show '%' ∈ targetCharacters by decide)
        (by decide) _).mpr own
      unfold Parts.writtenAuthority mailParts
      simp only [present, decoded, encodeAuthority_of_ascii narrow, Bool.false_eq_true, ↓reduceIte]
    · rw [none] at empty
      exact absurd rfl empty

/-- Slashes are put before what is written of an address with an authority, or that would be taken
for one. -/
theorem toText_mail (a : Text) :
    ((mailParts a).recoded (splitAuthority a).1).toText = mailScheme ++
      if (splitAuthority a).1 ≠ [] ∨ "//".toList <+: mailTail a then
        "//" ++ (splitAuthority a).1 ++ mailTail a
      else mailTail a := by
  let p := (mailParts a).recoded (splitAuthority a).1
  have tail : p.path ++ p.ending = mailTail a := mailTail_eq a _
  have slashes : startsWith "//" p.path = true ↔ "//".toList <+: mailTail a := by
    rw [← tail, startsWith_iff, isPrefix_append_iff]
    intro c first
    rcases p.head?_ending c first with rfl | rfl <;> decide
  by_cases placed : (splitAuthority a).1 ≠ [] ∨ "//".toList <+: mailTail a
  · have rooted : rootedPath p.path = p.path := by
      refine (rootedPath_recode (mailParts a).path).1 ?_
      rcases placed with present | begins
      · exact head?_percentDecode (head?_splitAt_marks (endsAuthority_percentEncode
          (splitAuthority_snd present)))
      · exact head?_of_slashes (slashes.mpr begins)
    have text : p.toText = origin p.scheme p.authority ++ (rootedPath p.path ++ p.ending) :=
      toText_placed (placed.imp id fun begins => .inr (slashes.mpr begins))
    rw [if_pos placed, text, rooted, tail]
    rfl
  · have unplaced := placed
    rw [not_or, not_ne_iff, ← slashes, Bool.not_eq_true] at unplaced
    have free : hierarchicalSchemes.contains p.scheme = false :=
      show hierarchicalSchemes.contains "mailto".toList = false by decide
    have text : p.toText = _ := toText_bare unplaced.1 free unplaced.2
    rw [if_neg placed, text, tail]
    rfl

/-- An address keeps its spelling if what is written after its authority is what stands there, and
two slashes announce an authority or are written again. -/
theorem keepsSpelling_iff (plain : hasEscape a = false) :
    KeepsSpelling a ↔ mailTail a = (splitAuthority a).2 ∧ ("//".toList <+: a →
      (splitAuthority a).1 ≠ [] ∨ "//".toList <+: (splitAuthority a).2) := by
  have rest : hasEscape (splitAuthority a).2 = false := by
    rcases splitAuthority_cases a with ⟨whole, -⟩ | ⟨-, none⟩
    · rw [whole] at plain
      exact (hasEscape_append plain).2
    · rwa [none]
  rw [mailTail, written_rejoin_eq_iff rest, ← startsWith_iff, ← startsWith_iff]
  constructor
  · rintro ⟨-, authority, characters, marks⟩
    exact ⟨⟨characters, marks⟩, authority⟩
  · rintro ⟨⟨characters, marks⟩, authority⟩
    exact ⟨plain, authority, characters, marks⟩

/-- What is written of an address, with slashes where they are wanted, is the address exactly if it
keeps its spelling. -/
theorem mailText_eq_iff (plain : hasEscape a = false) :
    (if (splitAuthority a).1 ≠ [] ∨ "//".toList <+: mailTail a then
        "//" ++ (splitAuthority a).1 ++ mailTail a
      else mailTail a) = a ↔ KeepsSpelling a := by
  rw [keepsSpelling_iff plain]
  rcases splitAuthority_cases a with ⟨whole, -, -⟩ | ⟨slashless, none⟩
  · have begins : "//".toList <+: a := ⟨_, by rw [← List.append_assoc]; exact whole.symm⟩
    split
    · rename_i placed
      have cut : "//" ++ (splitAuthority a).1 ++ mailTail a = a ↔
          "//" ++ (splitAuthority a).1 ++ mailTail a =
            "//" ++ (splitAuthority a).1 ++ (splitAuthority a).2 := by rw [← whole]
      rw [cut, List.append_right_inj]
      refine ⟨fun same => ⟨same, fun _ => ?_⟩, And.left⟩
      rwa [← same]
    · rename_i unplaced
      refine iff_of_false (fun same => ?_) fun ⟨same, announced⟩ => ?_
      · exact unplaced (.inr (same.symm ▸ begins))
      · rw [← same] at announced
        exact unplaced (announced begins)
  · rw [none]
    have vacuous : ("//".toList <+: a → ([] : Text) ≠ [] ∨ "//".toList <+: a) :=
      fun begins => absurd begins slashless
    split
    · rename_i placed
      have begins : "//".toList <+: mailTail a := placed.resolve_left (not_not_intro rfl)
      refine iff_of_false (fun same => ?_) fun ⟨same, _⟩ => ?_
      · exact slashless ⟨mailTail a, same⟩
      · have whole : mailTail a = a := same
        rw [whole] at begins
        exact slashless begins
    · exact (and_iff_left vacuous).symm

/-- **The URL of an ASCII address is encoded as the address is spelled** exactly if the address keeps
its spelling, if it has no escape and its URL no reference. -/
theorem encodeParts_mail (ascii : ∀ c ∈ a, c.toNat < 128) (plain : hasEscape a = false)
    (references : decodeEntities (percentEncode targetCharacters a) =
      percentEncode targetCharacters a) :
    ∃ encoded, encodeParts (mailScheme ++ percentEncode targetCharacters a) = .ok encoded ∧
      (encoded = mailScheme ++ a ↔ KeepsSpelling a) := by
  have decoded : decodeEntities (mailScheme ++ percentEncode targetCharacters a) =
      mailScheme ++ percentEncode targetCharacters a := by
    rw [decodeEntities, browserReferences.decode_append (by decide), ← decodeEntities, references]
  have encoded := encodeParts_of_parse (p := mailParts a) (by rw [decoded]; exact parse_mail a)
  rw [writtenAuthority_mail ascii plain] at encoded
  refine ⟨((mailParts a).recoded (splitAuthority a).1).toText, encoded, ?_⟩
  rw [toText_mail, List.append_right_inj]
  exact mailText_eq_iff plain

end Encoded

end MarkdownSite.Url
