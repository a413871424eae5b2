import MarkdownSite.Proofs.Node.DescriptionList

/-!
# Terms and descriptions

A paragraph of a term, the mark and a description becomes a description list. The mark cannot
overlap itself, so it stands once where neither part has it, and the list is the one that is meant,
but for parts of a single character, which are not taken for a term or a description.
-/

namespace MarkdownSite

open Text

/-! ## Where the mark stands -/

variable {before after rest t : Text}

/-- The mark does not overlap itself: a text that is put before one mark and starts with another
goes at least to the end of that other. -/
theorem termEnd_apart (whole : before ++ (termEnd ++ after) = termEnd ++ rest) :
    before = [] ∨ ∃ middle, before = termEnd ++ middle ∧ rest = middle ++ (termEnd ++ after) := by
  have inner : '<' ∉ ("br>:" : Text) := by decide
  rcases List.append_eq_append_iff.mp whole with ⟨left, mark, follows⟩ | ⟨left, same, follows⟩
  · cases before with
    | nil => exact .inl rfl
    | cons c before =>
      cases left with
      | nil =>
        rw [List.append_nil] at mark
        exact .inr ⟨[], by rw [mark, List.append_nil], follows.symm⟩
      | cons d left =>
        have tail : ("br>:" : Text) = before ++ d :: left := (List.cons.inj mark).2
        have first : d = '<' := (List.cons.inj follows).1.symm
        rw [tail, first] at inner
        exact absurd (List.mem_append_right before List.mem_cons_self) inner
  · exact .inr ⟨left, same, follows⟩

/-- Between two parts that lack it the mark stands once. -/
theorem termEnd_unique (first : ¬termEnd <:+: t) (second : ¬termEnd <:+: rest)
    (whole : before ++ (termEnd ++ after) = t ++ (termEnd ++ rest)) :
    before = t ∧ after = rest := by
  rcases List.append_eq_append_iff.mp whole with ⟨left, rfl, same⟩ | ⟨left, rfl, same⟩
  · rcases termEnd_apart same.symm with rfl | ⟨middle, rfl, -⟩
    · exact ⟨(List.append_nil before).symm, List.append_cancel_left same⟩
    · exact absurd ⟨before, middle, List.append_assoc ..⟩ first
  · rcases termEnd_apart same.symm with rfl | ⟨middle, -, follows⟩
    · exact ⟨List.append_nil t, (List.append_cancel_left same).symm⟩
    · exact absurd ⟨middle, after, by rw [follows, List.append_assoc]⟩ second

/-- Blanks before a text make no mark. -/
theorem termEnd_blanks {blanks : Text} (blank : ∀ c ∈ blanks, isBlank c = true)
    (absent : ¬termEnd <:+: t) : ¬termEnd <:+: blanks ++ t := by
  induction blanks with
  | nil => exact absent
  | cons b blanks ih =>
    have later := ih fun c member => blank c (List.mem_cons_of_mem b member)
    rw [List.cons_append, List.infix_cons_iff, not_or]
    refine ⟨fun starts => ?_, later⟩
    have first : '<' = b := (List.cons_prefix_cons.mp starts).1
    have visible := blank b List.mem_cons_self
    rw [← first] at visible
    exact absurd visible (by decide)

/-! ## Where no list is -/

/-- No mark of the text is followed by a description. -/
def LacksDescriptions (t : Text) : Prop :=
  ∀ before after, t = before ++ (termEnd ++ after) → descriptionAfter? after = none

/-- What a text lacks its end lacks. -/
theorem LacksDescriptions.tail {c : Char} (lacks : LacksDescriptions (c :: t)) :
    LacksDescriptions t := by
  intro before after whole
  exact lacks (c :: before) after (by rw [whole, List.cons_append])

/-- Where no mark is followed by a description no term ends. -/
theorem splitTerm?_of_lacks (lacks : LacksDescriptions t) : splitTerm? t = none := by
  induction t with
  | nil => rfl
  | cons c t ih =>
    have none : (dropPrefix? termEnd (c :: t)).bind descriptionAfter? = none := by
      rw [Option.bind_eq_none_iff]
      intro after dropped
      have whole : c :: t = termEnd ++ after := dropPrefix?_eq_some_iff.mp dropped
      exact lacks [] after whole
    rw [splitTerm?, ih lacks.tail, none]
    exact ite_self _

/-- Where no mark is followed by a description there is no list after a blank. -/
theorem describeAfterBlank?_of_lacks (lacks : LacksDescriptions t) :
    describeAfterBlank? t = none := by
  induction t with
  | nil => rfl
  | cons c t ih =>
    have later := lacks.tail
    rw [describeAfterBlank?_cons, descriptionHere?_of_splitTerm? (splitTerm?_of_lacks later),
      ite_self, ih later]
    rfl

/-- Where no mark is followed by a description there is no list. -/
theorem describe?_of_lacks (lacks : LacksDescriptions t) : describe? t = none := by
  rw [describe?, descriptionHere?_of_splitTerm? (splitTerm?_of_lacks lacks)]
  exact describeAfterBlank?_of_lacks lacks

/-- A mark that no blank follows is followed by no description. -/
theorem descriptionAfter?_of_head (visible : ∀ c ∈ t.head?, isBlank c = false) :
    descriptionAfter? t = none := by
  unfold descriptionAfter?
  split
  · rename_i c rest
    rw [visible c rfl]
    rfl
  · rfl

/-! ## Entries -/

/-- A text that is meant as a term or as a description: it starts with a visible character, and it
has neither a line feed nor the mark. -/
structure IsEntry (t : Text) : Prop where
  /-- It is not empty and starts with a visible character. -/
  starts : ∃ c ∈ t.head?, isBlank c = false
  /-- It stands on one line. -/
  oneLine : '\n' ∉ t
  /-- The mark is not part of it. -/
  unmarked : ¬termEnd <:+: t

section Entries

variable {term blanks description : Text}

/-- A description of two characters at least is read after blanks, to its end. -/
theorem descriptionAfter?_entry (described : IsEntry description) (present : blanks ≠ [])
    (blank : ∀ c ∈ blanks, isBlank c = true) :
    descriptionAfter? (blanks ++ description) =
      if 2 ≤ description.length then some (description, []) else none := by
  obtain ⟨b, blanks, rfl⟩ := List.exists_cons_of_ne_nil present
  obtain ⟨c, first, visible⟩ := described.starts
  obtain ⟨rest, rfl⟩ := List.head?_eq_some_iff.mp first
  have skipped : (blanks ++ c :: rest).dropWhile isBlank = c :: rest := by
    rw [List.dropWhile_append_of_pos fun d member => blank d (List.mem_cons_of_mem b member),
      List.dropWhile_cons_of_neg (by simp [visible])]
  have line := described.oneLine
  unfold descriptionAfter?
  simp only [List.cons_append, blank b List.mem_cons_self, ↓reduceIte, skipped]
  cases rest with
  | nil => rfl
  | cons d rest =>
    have inside : '\n' ∉ d :: rest := fun member => line (List.mem_cons_of_mem c member)
    have within : d ≠ '\n' := fun same => inside (by rw [same]; exact List.mem_cons_self)
    simp [within, takeWhile_bne inside]

/-- A term ends at a mark that a description follows, if it stands before it on its line and no
description comes later. -/
theorem splitTerm?_append (oneLine : '\n' ∉ t) {found : Text × Text}
    (described : descriptionAfter? after = some found)
    (last : LacksDescriptions ("br>:" ++ after)) :
    splitTerm? (t ++ (termEnd ++ after)) = some (t, found) := by
  induction t with
  | nil =>
    have mark : dropPrefix? termEnd ('<' :: ("br>:" ++ after)) = some after :=
      dropPrefix?_append termEnd after
    change splitTerm? ('<' :: ("br>:" ++ after)) = _
    rw [splitTerm?, splitTerm?_of_lacks last, mark]
    simp [described]
  | cons c t ih =>
    rw [List.mem_cons, not_or] at oneLine
    rw [List.cons_append, splitTerm?, if_neg (Ne.symm oneLine.1), ih oneLine.2]

/-- Where term and description lack the mark it is followed by no description but the one. -/
theorem lacksDescriptions_after (described : IsEntry description)
    (blank : ∀ c ∈ blanks, isBlank c = true) :
    LacksDescriptions ("br>:" ++ (blanks ++ description)) := by
  intro before after whole
  have marked : ('<' :: before) ++ (termEnd ++ after) =
      [] ++ (termEnd ++ (blanks ++ description)) :=
    congrArg (List.cons '<') whole.symm
  have absent : ¬termEnd <:+: ([] : Text) := by decide
  have same := (termEnd_unique absent (termEnd_blanks blank described.unmarked) marked).1
  cases same

/-- A term of two characters at least, the mark, blanks and a description of two characters at least
are a description list; with a shorter term or description they are none. -/
theorem describe?_entries (named : IsEntry term) (described : IsEntry description)
    (present : blanks ≠ []) (blank : ∀ c ∈ blanks, isBlank c = true) :
    describe? (term ++ (termEnd ++ (blanks ++ description))) =
      if 2 ≤ term.length ∧ 2 ≤ description.length then some (descriptionHtml term description)
      else none := by
  have read := descriptionAfter?_entry described present blank
  have later := lacksDescriptions_after described blank
  have absent := termEnd_blanks blank described.unmarked
  obtain ⟨c, first, visible⟩ := named.starts
  obtain ⟨rest, rfl⟩ := List.head?_eq_some_iff.mp first
  by_cases long : 2 ≤ description.length
  · rw [if_pos long] at read
    cases rest with
    | nil =>
      -- the first character of the mark would have to belong to the term
      have here : descriptionHere? (c :: '<' :: ("br>:" ++ (blanks ++ description))) = none := by
        rw [descriptionHere?_cons, splitTerm?_of_lacks later]
        exact ite_self _
      have further : describeAfterBlank? ('<' :: ("br>:" ++ (blanks ++ description))) = none := by
        rw [describeAfterBlank?_cons, describeAfterBlank?_of_lacks later]
        rfl
      rw [if_neg (by simp)]
      change describe? (c :: '<' :: ("br>:" ++ (blanks ++ description))) = none
      rw [describe?, here]
      change describeAfterBlank? (c :: '<' :: ("br>:" ++ (blanks ++ description))) = none
      rw [describeAfterBlank?_cons, visible, further]
      rfl
    | cons d rest =>
      have inside := named.oneLine
      rw [List.mem_cons, List.mem_cons, not_or, not_or] at inside
      have split := splitTerm?_append inside.2.2 read later
      have here : descriptionHere? (c :: d :: (rest ++ (termEnd ++ (blanks ++ description)))) =
          some (c :: d :: rest, description, []) := by
        rw [descriptionHere?_cons, split]
        simp [visible, Ne.symm inside.2.1]
      rw [if_pos ⟨by simp, long⟩]
      change describe? (c :: d :: (rest ++ (termEnd ++ (blanks ++ description)))) = _
      rw [describe?, here]
      simp
  · rw [if_neg long] at read
    rw [if_neg fun both => long both.2]
    refine describe?_of_lacks fun before after whole => ?_
    rw [(termEnd_unique named.unmarked absent whole.symm).2, read]

end Entries

/-! ## Paragraphs -/

/-- A text in the element of a paragraph. -/
def plainParagraph (content : Text) : Text := "<p>" ++ content ++ "</p>\n"

/-- A paragraph is a description list where one is found, if options allow it. -/
theorem renderParagraph_eq {page : Page} (allowed : page.options.descriptionLists = true)
    (content : Text) :
    renderParagraph page content = (describe? content).getD (plainParagraph content) := by
  unfold renderParagraph
  rw [if_pos allowed]
  cases describe? content with
  | none => simp [plainParagraph, elementHtml]
  | some list => rfl

/-- **A term, the mark, blanks and a description make a description list** exactly if both have two
characters at least, and a text without a mark before a blank stays a paragraph. -/
theorem renderParagraph_entries {page : Page} (allowed : page.options.descriptionLists = true) :
    (∀ {term blanks description : Text}, IsEntry term → IsEntry description → blanks ≠ [] →
      (∀ c ∈ blanks, isBlank c = true) →
        renderParagraph page (term ++ (termEnd ++ (blanks ++ description))) =
          if 2 ≤ term.length ∧ 2 ≤ description.length then descriptionHtml term description
          else plainParagraph (term ++ (termEnd ++ (blanks ++ description)))) ∧
      ∀ {content : Text},
        (∀ before after, content = before ++ (termEnd ++ after) →
          ∀ c ∈ after.head?, isBlank c = false) →
        renderParagraph page content = plainParagraph content := by
  constructor
  · intro term blanks description named described present blank
    rw [renderParagraph_eq allowed, describe?_entries named described present blank]
    split <;> rfl
  · intro content unfollowed
    rw [renderParagraph_eq allowed, describe?_of_lacks]
    · rfl
    · intro before after whole
      exact descriptionAfter?_of_head (unfollowed before after whole)

/-- A term of one character is not taken for a term. -/
theorem renderParagraph_short_term :
    IsEntry "a" ∧ IsEntry "bc" ∧ (" " : Text) ≠ [] ∧ (∀ c ∈ (" " : Text), isBlank c = true) ∧
      renderParagraph {} ("a" ++ (termEnd ++ (" " ++ "bc"))) ≠ descriptionHtml "a" "bc" := by
  have named : IsEntry "a" := ⟨⟨'a', rfl, by decide⟩, by decide, by decide⟩
  have described : IsEntry "bc" := ⟨⟨'b', rfl, by decide⟩, by decide, by decide⟩
  have blank : ∀ c ∈ (" " : Text), isBlank c = true := List.all_eq_true.mp (by decide)
  exact ⟨named, described, by decide, blank, by decide +kernel⟩

/-- A term with a tag in it and a description on the next line, and a mark before a letter. -/
theorem renderParagraph_entries_of_lines :
    let term : Text := "<em>Description</em> Term"
    let blanks : Text := "\n  "
    let description : Text := "This is the<br>Description: <b>long</b>"
    let content : Text := "Term" ++ (termEnd ++ "Description")
    (IsEntry term ∧ IsEntry description ∧ blanks ≠ [] ∧ (∀ c ∈ blanks, isBlank c = true) ∧
      renderParagraph {} (term ++ (termEnd ++ (blanks ++ description))) =
        descriptionHtml term description) ∧
      (∀ before after, content = before ++ (termEnd ++ after) →
        ∀ c ∈ after.head?, isBlank c = false) ∧
      renderParagraph {} content = plainParagraph content := by
  intro term blanks description content
  have named : IsEntry term := ⟨⟨'<', rfl, by decide⟩, by decide, by decide +kernel⟩
  have described : IsEntry description := ⟨⟨'T', rfl, by decide⟩, by decide, by decide +kernel⟩
  have present : blanks ≠ [] := by decide
  have blank : ∀ c ∈ blanks, isBlank c = true := List.all_eq_true.mp (by decide)
  have long : 2 ≤ term.length ∧ 2 ≤ description.length := by decide
  have unfollowed : ∀ before after, content = before ++ (termEnd ++ after) →
      ∀ c ∈ after.head?, isBlank c = false := by
    intro before after whole c first
    have absent : ¬termEnd <:+: ("Term" : Text) ∧ ¬termEnd <:+: ("Description" : Text) := by
      decide +kernel
    rw [(termEnd_unique absent.1 absent.2 whole.symm).2] at first
    cases first
    decide
  have allowed : ({} : Page).options.descriptionLists = true := rfl
  have rendered := (renderParagraph_entries allowed).1 named described present blank
  exact ⟨⟨named, described, present, blank, rendered.trans (if_pos long)⟩, unfollowed,
    (renderParagraph_entries allowed).2 unfollowed⟩

end MarkdownSite
