import MarkdownSite.Proofs.Text.Reference
import MarkdownSite.Text.Escape

/-!
# Escaped text

Escaped text has none of the characters that end an attribute value or a tag, and a browser reads
it as the text that was escaped.
-/

namespace MarkdownSite.Text

/-! ## Text that stays in its attribute -/

/-- Whether a character may end an attribute value in double quotes, or a tag. -/
def isMark (c : Char) : Bool := c == '"' || c == '<' || c == '>'

/-- A text that stays in the double quotes around it. -/
def Unmarked (t : Text) : Prop := ∀ c ∈ t, isMark c = false

instance (t : Text) : Decidable (Unmarked t) := List.decidableBAll (fun c => isMark c = false) t

/-- Nothing stays in its quotes. -/
theorem unmarked_nil : Unmarked [] := by simp [Unmarked]

/-- Two texts stay in their quotes together exactly when each does. -/
theorem unmarked_append {s t : Text} : Unmarked (s ++ t) ↔ Unmarked s ∧ Unmarked t := by
  simp [Unmarked, or_imp, forall_and]

/-- A character of a class that no mark belongs to is no mark. -/
theorem isMark_eq_false {p : Char → Bool} (apart : p '"' = false ∧ p '<' = false ∧ p '>' = false)
    {c : Char} (belongs : p c = true) : isMark c = false := by
  obtain ⟨quote, opening, closing⟩ := apart
  simp only [isMark, Bool.or_eq_false_iff, beq_eq_false_iff_ne]
  refine ⟨⟨?_, ?_⟩, ?_⟩
  · rintro rfl
    rw [quote] at belongs
    cases belongs
  · rintro rfl
    rw [opening] at belongs
    cases belongs
  · rintro rfl
    rw [closing] at belongs
    cases belongs

/-- A character escaped for double quotes stays in them. -/
theorem unmarked_escapeMarkupChar (c : Char) : Unmarked (escapeMarkupChar c) := by
  unfold escapeMarkupChar escapeContentChar
  split
  · decide
  split
  · decide
  split
  · decide
  split
  · decide
  · simp_all [Unmarked, isMark]

/-- A character escaped for an attribute stays in its quotes. -/
theorem unmarked_escapeAttributeChar (c : Char) : Unmarked (escapeAttributeChar c) := by
  unfold escapeAttributeChar
  split
  · decide
  · exact unmarked_escapeMarkupChar c

/-- Text escaped for double quotes stays in them. -/
theorem unmarked_escapeMarkup (t : Text) : Unmarked (escapeMarkup t) := by
  intro c member
  obtain ⟨origin, -, inside⟩ := List.mem_flatMap.mp member
  exact unmarked_escapeMarkupChar origin c inside

/-- Text escaped for an attribute stays in its quotes. -/
theorem unmarked_escapeAttribute (t : Text) : Unmarked (escapeAttribute t) := by
  intro c member
  obtain ⟨origin, -, inside⟩ := List.mem_flatMap.mp member
  exact unmarked_escapeAttributeChar origin c inside

/-- Text escaped for an attribute has no single quote. -/
theorem apostrophe_not_mem_escapeAttribute (t : Text) : '\'' ∉ escapeAttribute t := by
  intro member
  obtain ⟨c, -, written⟩ := List.mem_flatMap.mp member
  unfold escapeAttributeChar escapeMarkupChar escapeContentChar at written
  split at written
  · exact absurd written (by decide)
  rename_i other
  split at written
  · exact absurd written (by decide)
  split at written
  · exact absurd written (by decide)
  split at written
  · exact absurd written (by decide)
  split at written
  · exact absurd written (by decide)
  · exact other (List.mem_singleton.mp written).symm

/-- Text that stays in its quotes has no double quote. -/
theorem Unmarked.quote_not_mem {t : Text} (unmarked : Unmarked t) : '"' ∉ t :=
  fun member => absurd (unmarked '"' member) (by decide)

/-- A character escaped as content starts and ends no tag. -/
theorem not_mem_escapeContentChar (c : Char) :
    '<' ∉ escapeContentChar c ∧ '>' ∉ escapeContentChar c := by
  unfold escapeContentChar
  split
  · decide
  split
  · decide
  split
  · decide
  · rename_i opening closing
    simp [Ne.symm opening, Ne.symm closing]

/-- Text escaped as content starts and ends no tag. -/
theorem not_mem_escapeContent (t : Text) : '<' ∉ escapeContent t ∧ '>' ∉ escapeContent t := by
  refine ⟨fun member => ?_, fun member => ?_⟩
  · obtain ⟨c, -, written⟩ := List.mem_flatMap.mp member
    exact (not_mem_escapeContentChar c).1 written
  · obtain ⟨c, -, written⟩ := List.mem_flatMap.mp member
    exact (not_mem_escapeContentChar c).2 written

/-! ## Text that is read back -/

/-- An escaped character is read as the character that it was. -/
theorem decodeEntities_escapeAttributeChar (c : Char) (rest : Text) :
    decodeEntities (escapeAttributeChar c ++ rest) = c :: decodeEntities rest := by
  obtain ⟨amp, lt, gt, quot⟩ := namedEntity?_escapes
  have named {value : Text} (name : Text) (nonempty : name ≠ [])
      (letters : name.all isEntityNameChar = true) (short : name.length ≤ 32)
      (known : namedEntity? (name ++ [';']) = some value) :
      decodeEntities ('&' :: (name ++ ';' :: rest)) = value ++ decodeEntities rest :=
    browserReferences.decode_reference value
      (browserReferences.read?_name name rest nonempty letters short known)
  unfold escapeAttributeChar escapeMarkupChar escapeContentChar
  split
  · rename_i same
    rw [same]
    exact browserReferences.decode_reference ['\''] rfl
  split
  · rename_i same
    rw [same]
    exact named ['q', 'u', 'o', 't'] (by decide) (by decide) (by decide) quot
  split
  · rename_i same
    rw [same]
    exact named ['a', 'm', 'p'] (by decide) (by decide) (by decide) amp
  split
  · rename_i same
    rw [same]
    exact named ['l', 't'] (by decide) (by decide) (by decide) lt
  split
  · rename_i same
    rw [same]
    exact named ['g', 't'] (by decide) (by decide) (by decide) gt
  · rename_i other _ _
    exact browserReferences.decode_cons other rest

/-- A browser reads a text as the text itself where each character is escaped as for an attribute, or
stays and starts no reference. -/
theorem decodeEntities_flatMap {escape : Char → Text} {t : Text}
    (escapes : ∀ c ∈ t, escape c = escapeAttributeChar c ∨ escape c = [c] ∧ c ≠ '&') :
    decodeEntities (t.flatMap escape) = t := by
  induction t with
  | nil => rfl
  | cons c t ih =>
    obtain ⟨first, rest⟩ := List.forall_mem_cons.mp escapes
    rw [List.flatMap_cons]
    rcases first with escaped | ⟨stays, other⟩
    · rw [escaped, decodeEntities_escapeAttributeChar, ih rest]
    · rw [stays]
      exact (browserReferences.decode_cons other _).trans (congrArg (List.cons c) (ih rest))

/-- **A browser reads text escaped for an attribute as the text itself.** -/
theorem decodeEntities_escapeAttribute (t : Text) : decodeEntities (escapeAttribute t) = t :=
  decodeEntities_flatMap fun _ _ => .inl rfl

/-- A character is escaped as markup as for an attribute, unless it is a single quote. -/
theorem escapeMarkupChar_cases (c : Char) :
    escapeMarkupChar c = escapeAttributeChar c ∨ escapeMarkupChar c = [c] ∧ c ≠ '&' := by
  by_cases apostrophe : c = '\''
  · rw [apostrophe]
    exact .inr (by decide)
  · exact .inl (if_neg apostrophe).symm

/-- A browser reads text escaped as markup as the text itself. -/
theorem decodeEntities_escapeMarkup (t : Text) : decodeEntities (escapeMarkup t) = t :=
  decodeEntities_flatMap fun c _ => escapeMarkupChar_cases c

/-- A browser reads text escaped as content as the text itself. -/
theorem decodeEntities_escapeContent (t : Text) : decodeEntities (escapeContent t) = t := by
  refine decodeEntities_flatMap fun c _ => ?_
  by_cases double : c = '"'
  · rw [double]
    exact .inr (by decide)
  · rw [show escapeContentChar c = escapeMarkupChar c from (if_neg double).symm]
    exact escapeMarkupChar_cases c

end MarkdownSite.Text
