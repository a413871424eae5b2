import MarkdownSite.Node.Block
import MarkdownSite.Proofs.Sanitizer.Coverage

/-!
# Description lists among tags

A description list is recognised in the HTML of a paragraph, where tags already stand. Its own tags
are put between tags or into the values of attributes, never into a tag: the term starts at the
first place of its line where one can, which no tag of the line precedes. So the reader of names
comes to the same end, with the list or without it.
-/

namespace MarkdownSite

open Text Html Sanitizer

/-! ## Where a list stands -/

/-- A text that is cut into the blanks at its start, a description up to the end of a line, and the
rest. -/
def CutsDescription (t description rest : Text) : Prop :=
  ∃ blanks, t = blanks ++ (description ++ rest) ∧ (∀ c ∈ blanks, isBlank c = true) ∧
    ∀ c ∈ rest.head?, c = '\n'

/-- What follows the mark of a description list is cut at the end of the line. -/
theorem cuts_descriptionAfter? {t description rest : Text}
    (found : descriptionAfter? t = some (description, rest)) :
    CutsDescription t description rest := by
  unfold descriptionAfter? at found
  split at found
  · rename_i blank inside
    split at found
    · rename_i first
      split at found
      · rename_i c d more left
        split at found
        · cases found
        · cases found
          have leading := List.takeWhile_append_dropWhile (p := isBlank) (l := inside)
          have line := List.takeWhile_append_dropWhile (p := (· != '\n')) (l := d :: more)
          rw [left] at leading
          refine ⟨blank :: inside.takeWhile isBlank, ?_, ?_, ?_⟩
          · rw [drop_length_takeWhile, List.cons_append, List.cons_append, line, leading]
          · intro e member
            rcases List.mem_cons.mp member with rfl | others
            · exact first
            · exact List.all_eq_true.mp List.all_takeWhile e others
          · intro e head
            rw [drop_length_takeWhile] at head
            have ended := List.head?_dropWhile_not (· != '\n') (d :: more)
            rw [Option.mem_def.mp head] at ended
            simpa using ended
      · cases found
    · cases found
  · cases found

/-- A term ends at a mark that a description follows. -/
theorem cuts_splitTerm? {t term description rest : Text}
    (found : splitTerm? t = some (term, description, rest)) :
    ∃ after, t = term ++ (termEnd ++ after) ∧ CutsDescription after description rest := by
  induction t generalizing term with
  | nil => cases found
  | cons c t ih =>
    rw [splitTerm?] at found
    split at found
    · cases found
    split at found
    · rename_i later others
      cases found
      obtain ⟨after, whole, cuts⟩ := ih others
      exact ⟨after, by rw [whole]; rfl, cuts⟩
    · obtain ⟨parts, marked, same⟩ := Option.map_eq_some_iff.mp found
      obtain ⟨after, dropped, described⟩ := Option.bind_eq_some_iff.mp marked
      cases same
      refine ⟨after, ?_, cuts_descriptionAfter? described⟩
      rw [List.nil_append]
      exact dropPrefix?_eq_some_iff.mp dropped

/-- A description list is its term, the mark, blanks and the description. -/
theorem cuts_descriptionHere? {t term description rest : Text}
    (found : descriptionHere? t = some (term, description, rest)) :
    ∃ after, t = term ++ (termEnd ++ after) ∧ CutsDescription after description rest := by
  unfold descriptionHere? at found
  split at found
  · rename_i c d inner
    split at found
    · cases found
    · obtain ⟨⟨inside, parts⟩, split, same⟩ := Option.map_eq_some_iff.mp found
      cases same
      obtain ⟨after, whole, cuts⟩ := cuts_splitTerm? split
      exact ⟨after, by rw [whole]; rfl, cuts⟩
  · cases found

/-! ## Where no list stands -/

/-- No term ends on an empty line. -/
theorem splitTerm?_lineFeed (t : Text) : splitTerm? ('\n' :: t) = none := rfl

/-- A term that ends nowhere on a line ends nowhere on the rest of the line. -/
theorem splitTerm?_tail {c : Char} {t : Text} (absent : splitTerm? (c :: t) = none)
    (within : c ≠ '\n') : splitTerm? t = none := by
  rw [splitTerm?, if_neg within] at absent
  cases split : splitTerm? t with
  | none => rfl
  | some found =>
    rw [split] at absent
    cases absent

/-- A term that ends nowhere on the rest of a line ends nowhere on the line, unless a tag starts the
line. -/
theorem splitTerm?_cons {c : Char} {t : Text} (absent : splitTerm? t = none) (plain : c ≠ '<') :
    splitTerm? (c :: t) = none := by
  have unmarked : dropPrefix? termEnd (c :: t) = none := if_neg (Ne.symm plain)
  rw [splitTerm?, absent, unmarked]
  exact ite_self none

/-- A list that starts here has a visible character and one on the same line before the term may
end. -/
theorem descriptionHere?_cons (c d : Char) (rest : Text) :
    descriptionHere? (c :: d :: rest) =
      if isBlank c || d == '\n' then none
      else (splitTerm? rest).map fun (term, found) => (c :: d :: term, found) := rfl

/-- A list starts nowhere where no term ends on the line. -/
theorem descriptionHere?_of_splitTerm? {t : Text} (absent : splitTerm? t = none) :
    descriptionHere? t = none := by
  unfold descriptionHere?
  split
  · rename_i c d rest
    split
    · rfl
    · rename_i visible
      simp only [Bool.or_eq_true, beq_iff_eq, not_or] at visible
      have within : c ≠ '\n' := fun same => visible.1 (by rw [same]; rfl)
      rw [splitTerm?_tail (splitTerm?_tail absent within) visible.2]
      rfl
  · rfl

/-- Where no list starts at a character that could start a term, no term ends on the rest of the
line after the next character. -/
theorem splitTerm?_of_descriptionHere? {c d : Char} {rest : Text}
    (absent : descriptionHere? (c :: d :: rest) = none) (visible : isBlank c = false)
    (within : d ≠ '\n') : splitTerm? rest = none := by
  rw [descriptionHere?_cons, if_neg (by simp [visible, within])] at absent
  exact Option.map_eq_none_iff.mp absent

/-- Where no list starts at a character that could start a term, none starts at the next one. -/
theorem descriptionHere?_tail {c : Char} {t : Text} (absent : descriptionHere? (c :: t) = none)
    (visible : isBlank c = false) : descriptionHere? t = none := by
  cases t with
  | nil => rfl
  | cons d rest =>
    by_cases within : d = '\n'
    · rw [within]
      exact descriptionHere?_of_splitTerm? (splitTerm?_lineFeed rest)
    · have later := splitTerm?_of_descriptionHere? absent visible within
      cases rest with
      | nil => rfl
      | cons e more =>
        rw [descriptionHere?_cons]
        split
        · rfl
        · rename_i seen
          simp only [Bool.or_eq_true, beq_iff_eq, not_or] at seen
          rw [splitTerm?_tail later seen.2]
          rfl

/-- Where no list starts at a character that could start a term, no term ends on the rest of the
line, unless a tag comes next. -/
theorem splitTerm?_or_tag {c : Char} {t : Text} (absent : descriptionHere? (c :: t) = none)
    (visible : isBlank c = false) : splitTerm? t = none ∨ t.head? = some '<' := by
  cases t with
  | nil => exact .inl rfl
  | cons d rest =>
    by_cases tag : d = '<'
    · exact .inr (by rw [tag]; rfl)
    refine .inl ?_
    by_cases within : d = '\n'
    · rw [within, splitTerm?_lineFeed]
    · exact splitTerm?_cons (splitTerm?_of_descriptionHere? absent visible within) tag

/-- A list after a blank stands right after the first character, or further on. -/
theorem describeAfterBlank?_cons (c : Char) (t : Text) :
    describeAfterBlank? (c :: t) =
      match if isBlank c then descriptionHere? t else none with
      | some (term, description, rest) => some (descriptionHtml term description ++ rest)
      | none => (describeAfterBlank? t).map (c :: ·) := (rfl)

/-! ## Reading a list -/

namespace Sanitizer.Policy

variable {position : Position}

/-- Blanks are read where any text may stand. -/
theorem read_blanks (text : TakesText position) {blanks : Text}
    (blank : ∀ c ∈ blanks, isBlank c = true) : standard.read position blanks = some position :=
  read_text text (fun member => absurd (blank _ member) (by decide))
    fun member => absurd (blank _ member) (by decide)

/-- Tags are read where any text may stand, and leave the reader there. -/
theorem read_tags (text : TakesText position) {tags : Text} (covered : standard.Covers tags)
    (quoted : '"' ∉ tags) : standard.read position tags = some position := by
  rcases text with rfl | ⟨tag, rfl⟩
  · exact covered
  · exact read_value quoted tag

/-- A reader stops at a character that may not stand in a tag, unless it stands where any text
may. -/
theorem read_foreign (inTag : ¬TakesText position) {c : Char} (foreign : isTagChar c = false)
    (rest : Text) : standard.read position (c :: rest) = none := by
  rw [read_cons]
  cases stepped : standard.step position c with
  | none => rfl
  | some next => exact absurd (takesText_of_step foreign stepped) inTag

/-- A description with tags after it is read like the description alone. -/
theorem read_description {description rest : Text} (line : ∀ c ∈ rest.head?, c = '\n')
    (ends : standard.read position (description ++ rest) = none ∨
      standard.read position (description ++ rest) = some .content) :
    standard.read position (description ++ ("</dd></dl>" ++ rest)) =
      standard.read position (description ++ rest) := by
  rw [read_append] at ends ⊢
  rw [read_append]
  cases last : standard.read position description with
  | none => rfl
  | some after =>
    rw [last] at ends
    simp only [Option.bind_some] at ends ⊢
    by_cases text : TakesText after
    · rw [read_append_of (read_tags text (by decide) (by decide))]
    · have stopped : standard.read after ("</dd></dl>" ++ rest) = none :=
        read_foreign text (by decide) _
      rw [stopped]
      cases rest with
      | nil =>
        rcases ends with none | content
        · cases none
        · cases content
          exact absurd (.inl rfl) text
      | cons c more => rw [line c rfl, read_foreign text (by decide)]

/-- A description list is read like the text that it stands for. -/
theorem read_descriptionHtml (text : TakesText position) {t term description rest : Text}
    (found : descriptionHere? t = some (term, description, rest))
    (ends : standard.read position t = none ∨ standard.read position t = some .content) :
    standard.read position (descriptionHtml term description ++ rest) =
      standard.read position t := by
  obtain ⟨after, rfl, blanks, rfl, blank, line⟩ := cuts_descriptionHere? found
  have written : descriptionHtml term description ++ rest =
      "<dl><dt>" ++ term ++ "</dt><dd>" ++ description ++ "</dd></dl>" ++ rest := rfl
  simp only [List.append_assoc] at written
  rw [written, read_append_of (read_tags text (by decide) (by decide))]
  rw [read_append term] at ends ⊢
  rw [read_append term]
  cases first : standard.read position term with
  | none => rfl
  | some middle =>
    rw [first] at ends
    simp only [Option.bind_some] at ends ⊢
    by_cases within : TakesText middle
    · have mark : standard.read middle termEnd = some middle :=
        read_tags within (by decide) (by decide)
      have tags : standard.read middle "</dt><dd>" = some middle :=
        read_tags within (by decide) (by decide)
      rw [read_append_of mark, read_append_of (read_blanks within blank)] at ends ⊢
      rw [read_append_of tags, read_description line ends]
    · have stopped : standard.read middle ("</dt><dd>" ++
          (description ++ ("</dd></dl>" ++ rest))) = none := read_foreign within (by decide) _
      have unread : standard.read middle (termEnd ++ (blanks ++ (description ++ rest))) = none :=
        read_foreign within (by decide) _
      rw [stopped, unread]

/-- One character on, no term ends on the line inside a tag: none does so before, or the tag starts
where a list could have started. -/
theorem splitTerm?_of_step {c : Char} {t : Text} {next : Position}
    (absent : descriptionHere? (c :: t) = none)
    (within : ¬TakesText position → splitTerm? (c :: t) = none ∨ c = '<')
    (stepped : standard.step position c = some next) (inTag : ¬TakesText next) :
    splitTerm? t = none ∨ t.head? = some '<' := by
  by_cases text : TakesText position
  · have mark : c = '<' ∨ c = '"' := by
      by_contra other
      rw [not_or] at other
      have kept : standard.read position [c] = some position :=
        read_text text (by simpa using Ne.symm other.1) (by simpa using Ne.symm other.2)
      rw [read_cons_of stepped] at kept
      cases kept
      exact inTag text
    refine splitTerm?_or_tag absent ?_
    rcases mark with rfl | rfl
    · rfl
    · rfl
  · rcases within text with ended | rfl
    · have line : c ≠ '\n' := by
        rintro rfl
        exact text (takesText_of_step (by decide) stepped)
      exact .inl (splitTerm?_tail ended line)
    · exact absurd (takesText_of_step (by decide) stepped) text

/-- A description list is read like the blank before it and the text that it stands for, where no
term ends on the rest of a line that starts inside a tag. -/
theorem read_afterBlank {c : Char} (blank : isBlank c = true) {t term description rest : Text}
    (here : descriptionHere? t = some (term, description, rest))
    (within : ¬TakesText position → splitTerm? (c :: t) = none)
    (ends : standard.read position (c :: t) = none ∨
      standard.read position (c :: t) = some .content) :
    standard.read position (descriptionHtml term description ++ rest) =
      standard.read position (c :: t) := by
  by_cases text : TakesText position
  · have kept : standard.read position [c] = some position :=
      read_blanks text (by simpa using blank)
    have read : standard.read position (c :: t) = standard.read position t :=
      read_append_of kept t
    rw [read] at ends ⊢
    exact read_descriptionHtml text here ends
  · have opened : standard.read position (descriptionHtml term description ++ rest) = none :=
      read_foreign text (by decide) _
    have line : c = '\n' := by
      by_contra other
      rw [descriptionHere?_of_splitTerm? (splitTerm?_tail (within text) other)] at here
      cases here
    rw [opened, line, read_foreign text (by decide)]

/-- A text with a description list after a blank is read like the text without it, where no list
starts at once and no term ends on the rest of a line that starts inside a tag. -/
theorem read_describeAfterBlank? {t made : Text} (absent : descriptionHere? t = none)
    (within : ¬TakesText position → splitTerm? t = none ∨ t.head? = some '<')
    (found : describeAfterBlank? t = some made)
    (ends : standard.read position t = none ∨ standard.read position t = some .content) :
    standard.read position made = standard.read position t := by
  induction t generalizing position made with
  | nil => exact absurd found (Option.some_ne_none made).symm
  | cons c t ih =>
    have marked : ¬TakesText position → splitTerm? (c :: t) = none ∨ c = '<' := fun inTag =>
      (within inTag).imp_right fun first => Option.some.inj first
    rw [describeAfterBlank?_cons] at found
    split at found
    · rename_i term description rest here
      cases found
      split at here
      · rename_i blank
        refine read_afterBlank blank here (fun inTag => (marked inTag).resolve_right ?_) ends
        rintro rfl
        cases blank
      · cases here
    · rename_i elsewhere
      obtain ⟨later, inside, rfl⟩ := Option.map_eq_some_iff.mp found
      have next : descriptionHere? t = none := by
        cases blank : isBlank c with
        | true => rwa [if_pos blank] at elsewhere
        | false => exact descriptionHere?_tail absent blank
      cases stepped : standard.step position c with
      | none => rw [read_cons, read_cons, stepped, Option.bind_none, Option.bind_none]
      | some middle =>
        rw [read_cons_of stepped] at ends ⊢
        rw [read_cons_of stepped]
        exact ih next (splitTerm?_of_step absent marked stepped) inside ends

/-- A text with a description list is covered under the same condition as the text without it. -/
theorem CoversIf.describe? {condition : Prop} {t made : Text}
    (piece : standard.CoversIf condition t) (found : describe? t = some made) :
    standard.CoversIf condition made := by
  refine piece.of_read ?_
  unfold MarkdownSite.describe? at found
  split at found
  · rename_i term description rest here
    cases found
    exact read_descriptionHtml (.inl rfl) here piece.read_cases
  · rename_i absent
    exact read_describeAfterBlank? absent (fun inTag => absurd (.inl rfl) inTag) found
      piece.read_cases

/-- **A paragraph is covered exactly if its content is**, with a description list or without. -/
theorem CoversIf.renderParagraph {condition : Prop} {content : Text}
    (piece : standard.CoversIf condition content) (page : Page) :
    standard.CoversIf condition (renderParagraph page content) := by
  unfold MarkdownSite.renderParagraph
  split
  · rename_i list found
    split at found
    · exact piece.describe? found
    · cases found
  · exact (piece.elementHtml (by decide)).followed (by decide)

end Sanitizer.Policy

end MarkdownSite
