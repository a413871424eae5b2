import MarkdownSite.Proofs.Text.Pieces
import MarkdownSite.Proofs.Text.Trimmed

/-!
# The words of a slug

With a separator of one character a slug is the words of its text with that character between them:
what stands between blanks, unsafe punctuation and copies of the separator itself. This holds of
every character that can be read as a template, and of one character it does not: a backslash opens
an escape there, and one that stands alone is refused.
-/

namespace MarkdownSite.Text

/-! ## Words -/

/-- The words of a text: what stands between runs of characters that satisfy `p`. -/
def wordsBetween (p : Char → Bool) (t : Text) : List Text :=
  (splitWhere p t).filter fun piece => !piece.isEmpty

section Words

variable {p : Char → Bool}

/-- The words of two texts with a break between them are those of the one and those of the other. -/
theorem wordsBetween_append_cons {c : Char} (breaks : p c = true) (s t : Text) :
    wordsBetween p (s ++ c :: t) = wordsBetween p s ++ wordsBetween p t := by
  unfold wordsBetween
  rw [splitWhere_append_cons breaks, List.filter_append]

/-- A break at the start belongs to no word. -/
theorem wordsBetween_cons {c : Char} (breaks : p c = true) (t : Text) :
    wordsBetween p (c :: t) = wordsBetween p t :=
  wordsBetween_append_cons breaks [] t

/-- Breaks at the start belong to no word. -/
theorem wordsBetween_append {before : Text} (breaks : ∀ c ∈ before, p c = true) (t : Text) :
    wordsBetween p (before ++ t) = wordsBetween p t := by
  induction before with
  | nil => rfl
  | cons c before ih =>
    obtain ⟨first, others⟩ := List.forall_mem_cons.mp breaks
    rw [List.cons_append, wordsBetween_cons first, ih others]

/-- The words of two texts with a run of breaks between them are those of the one and those of the
other. -/
theorem wordsBetween_append_run {run : Text} (present : run ≠ []) (breaks : ∀ c ∈ run, p c = true)
    (s t : Text) : wordsBetween p (s ++ (run ++ t)) = wordsBetween p s ++ wordsBetween p t := by
  obtain ⟨c, others, rfl⟩ := List.exists_cons_of_ne_nil present
  obtain ⟨first, rest⟩ := List.forall_mem_cons.mp breaks
  rw [List.cons_append, wordsBetween_append_cons first, wordsBetween_append rest]

/-- Breaks at the end belong to no word. -/
theorem wordsBetween_append_after {after : Text} (breaks : ∀ c ∈ after, p c = true) (t : Text) :
    wordsBetween p (t ++ after) = wordsBetween p t := by
  by_cases present : after = []
  · rw [present, List.append_nil]
  · have cut := wordsBetween_append_run present breaks t []
    rw [List.append_nil] at cut
    exact cut.trans (List.append_nil _)

/-- The words of a text are those between what is a break of it. -/
theorem wordsBetween_congr {q : Char → Bool} {t : Text} (same : ∀ c ∈ t, p c = q c) :
    wordsBetween p t = wordsBetween q t := by
  unfold wordsBetween
  congr 1
  induction t with
  | nil => rfl
  | cons c t ih =>
    obtain ⟨first, others⟩ := List.forall_mem_cons.mp same
    rw [splitWhere, splitWhere, first, ih others]

end Words

/-! ## Separators -/

section Separators

variable {sep : Char}

/-- Dropping separators at both ends changes no word. -/
theorem wordsBetween_stripWhere (p : Char → Bool) (t : Text) :
    wordsBetween p (stripWhere p t) = wordsBetween p t := by
  obtain ⟨before, after, whole, starts, ends⟩ := eq_append_stripWhere p t
  conv_rhs => rw [whole, wordsBetween_append_after ends, wordsBetween_append starts]

/-- Collapsing separators changes no word. -/
theorem wordsBetween_collapseCopies {fuel : Nat} {t : Text} (enough : t.length ≤ fuel) :
    wordsBetween (· == sep) (collapseCopies [sep] (fun _ => [sep]) fuel t) =
      wordsBetween (· == sep) t := by
  -- what precedes the text is general, for the first of its words may go on there
  suffices whole : ∀ before : Text,
      wordsBetween (· == sep) (before ++ collapseCopies [sep] (fun _ => [sep]) fuel t) =
        wordsBetween (· == sep) (before ++ t) from whole []
  induction fuel generalizing t with
  | zero => exact fun _ => rfl
  | succ fuel ih =>
    intro before
    cases t with
    | nil => rfl
    | cons c t =>
      have bound : t.length ≤ fuel := Nat.le_of_succ_le_succ enough
      simp only [collapseCopies, leadingCopies_singleton enough]
      split
      · rename_i copies
        have same : c = sep := by
          by_contra other
          simp [other] at copies
        subst same
        have shorter : (t.dropWhile (· == c)).length ≤ fuel :=
          (List.dropWhile_suffix _).length_le.trans bound
        have dropped : wordsBetween (· == c) (t.dropWhile (· == c)) = wordsBetween (· == c) t := by
          conv_rhs => rw [← List.takeWhile_append_dropWhile (p := (· == c)) (l := t),
            wordsBetween_append fun d member => List.mem_takeWhile_imp member]
        have rest := ih shorter []
        rw [List.nil_append, List.nil_append] at rest
        rw [List.dropWhile_cons_of_pos (by simp), List.singleton_append,
          wordsBetween_append_cons (by simp), wordsBetween_append_cons (by simp), rest, dropped]
      · have next := ih bound (before ++ [c])
        rwa [List.append_assoc, List.append_assoc] at next

/-- Replacing runs of breaks by one separator keeps the words, where copies of the separator part
words as well. -/
theorem wordsBetween_replaceRuns (p : Char → Bool) (t : Text) :
    wordsBetween (· == sep) (replaceRuns p (fun _ => [sep]) t) =
      wordsBetween (fun c => p c || c == sep) t := by
  let q := fun c => p c || c == sep
  have separator : q sep = true := by simp [q]
  have same {before : Text} (plain : ∀ c ∈ before, p c = false) :
      wordsBetween (· == sep) before = wordsBetween q before :=
    wordsBetween_congr fun c member => by simp [q, plain c member]
  -- a run that is begun stands between what precedes it, in which nothing is replaced, and the rest
  suffices whole : ∀ run before : Text, (∀ c ∈ run, p c = true) → (∀ c ∈ before, p c = false) →
      wordsBetween (· == sep) (before ++ replaceRunsFrom p (fun _ => [sep]) run t) =
        if run = [] then wordsBetween q (before ++ t)
        else wordsBetween q before ++ wordsBetween q t from
    whole [] [] (by simp) (by simp)
  induction t with
  | nil =>
    intro run before breaks plain
    by_cases begun : run = []
    · subst begun
      simpa [replaceRunsFrom] using same plain
    · have ended : replaceRunsFrom p (fun _ => [sep]) run [] = [sep] := by
        simp [replaceRunsFrom, begun]
      rw [if_neg begun, ended, wordsBetween_append_cons (by simp), same plain]
      rfl
  | cons c t ih =>
    intro run before breaks plain
    rw [replaceRunsFrom]
    by_cases replaced : p c = true
    · have other : q c = true := by simp [q, replaced]
      rw [if_pos replaced, ih (c :: run) before (List.forall_mem_cons.mpr ⟨replaced, breaks⟩) plain,
        if_neg (List.cons_ne_nil c run)]
      split
      · rw [wordsBetween_append_cons other]
      · rw [wordsBetween_cons other]
    · rw [Bool.not_eq_true] at replaced
      have kept (before : Text) (plain : ∀ c ∈ before, p c = false) :=
        ih [] (before ++ [c]) (by simp) (by simpa [or_imp, forall_and] using ⟨plain, replaced⟩)
      rw [if_neg (by simp [replaced])]
      by_cases begun : run = []
      · have next := kept before plain
        simp only [List.append_assoc, List.singleton_append, ↓reduceIte] at next
        rw [begun]
        exact next
      · have next := kept [] (by simp)
        simp only [List.nil_append, List.singleton_append, ↓reduceIte] at next
        have opened : (if run.isEmpty then [] else [sep]) = [sep] := by simp [begun]
        rw [if_neg begun, opened, List.singleton_append, wordsBetween_append_cons (by simp), next,
          same plain]

/-- A text whose separators stand between other characters has no empty piece, unless it is
empty. -/
theorem Separates.ne_nil_of_mem_splitOn {s : Text} (separates : Separates sep s) (present : s ≠ []) :
    ∀ piece ∈ splitOn sep s, piece ≠ [] := by
  obtain ⟨starts, ends, apart⟩ := separates
  induction s using piecewise sep with
  | last piece absent =>
    rw [splitOn_of_not_mem absent]
    exact fun other listed => List.mem_singleton.mp listed ▸ present
  | more piece rest absent ih =>
    have first : piece ≠ [] := by
      rintro rfl
      exact starts rfl
    have more : rest ≠ [] := by
      rintro rfl
      exact ends (by simp)
    have behind : (sep :: rest).IsChain fun c d => ¬(c = sep ∧ d = sep) :=
      apart.right_of_append
    have next : sep ∉ rest.head? := fun head => (List.isChain_cons.mp behind).1 sep head ⟨rfl, rfl⟩
    have last : sep ∉ rest.getLast? := by
      rwa [List.getLast?_append_of_ne_nil _ (List.cons_ne_nil sep rest),
        List.getLast?_cons_of_ne_nil more] at ends
    rw [splitOn_piece absent]
    exact List.forall_mem_cons.mpr ⟨first, ih more next last (List.isChain_cons.mp behind).2⟩

/-- A text whose separators stand between other characters is its words with separators between
them. -/
theorem Separates.join_wordsBetween {s : Text} (separates : Separates sep s) :
    join [sep] (wordsBetween (· == sep) s) = s := by
  by_cases present : s = []
  · rw [present]
    rfl
  · have pieces : wordsBetween (· == sep) s = splitOn sep s := by
      refine List.filter_eq_self.mpr fun piece listed => ?_
      simpa using separates.ne_nil_of_mem_splitOn present piece listed
    rw [pieces, join_splitOn]

end Separators

/-! ## Slugs -/

/-- What is left of a text for its slug: no accents of Latin letters and no control characters. -/
def slugText (t : Text) : Text := (removeAccents t).filter fun c => !isControl c

/-- A slug whose words stand apart by a character: it is the words of the text with that character
between them, which stands nowhere else, and it has no other blank and no other unsafe
punctuation. -/
structure IsSeparatedBy (sep : Char) (t s : Text) : Prop extends Separates sep s where
  /-- One separator stands for each run of blanks and unsafe punctuation between words. -/
  words : s = join [sep] (wordsBetween (fun c => isSlugBreak c || c == sep) (slugText t))
  /-- Nothing else of what the separator stands for is left. -/
  settled : ∀ c ∈ s, isSlugBreak c = true → c = sep

/-- A separator of one character is a template that stands for itself, unless it is a backslash. -/
theorem parseTemplate?_singleton (sep : Char) :
    parseTemplate? [sep] = if sep = '\\' then none else some [.text [sep]] := by
  by_cases escape : sep = '\\'
  · rw [if_pos escape, escape]
    rfl
  · rw [if_neg escape]
    simp [parseTemplate?, parseTemplateFrom]

/-- The slug of a text with a separator that stands for itself. -/
theorem isSeparatedBy_slugWith (sep : Char) (t : Text) :
    IsSeparatedBy sep t (slugWith [sep] [.text [sep]] .none t) := by
  have template : fillTemplate [.text [sep]] = fun _ => [sep] := rfl
  let marked := replaceRuns isSlugBreak (fun _ => [sep]) (slugText t)
  let collapsed := collapseCopies [sep] (fun _ => [sep]) marked.length marked
  have slug : slugWith [sep] [.text [sep]] .none t = trimCopies [sep] collapsed := by
    simp only [slugWith, template, CaseTransform.apply, List.isEmpty_cons, Bool.false_eq_true,
      ↓reduceIte]
    rfl
  have apart : Separates sep (trimCopies [sep] collapsed) := separates_trimCopies marked
  have words : wordsBetween (· == sep) (trimCopies [sep] collapsed) =
      wordsBetween (fun c => isSlugBreak c || c == sep) (slugText t) := by
    rw [trimCopies_singleton, wordsBetween_stripWhere, wordsBetween_collapseCopies (Nat.le_refl _),
      wordsBetween_replaceRuns]
  rw [slug]
  refine ⟨apart, by rw [← words, apart.join_wordsBetween], fun c member breaks => ?_⟩
  rcases mem_collapseCopies (mem_of_mem_trimCopies member) with ⟨-, written⟩ | inside
  · exact List.mem_singleton.mp written
  · rcases mem_replaceRunsFrom inside with ⟨-, written⟩ | ⟨-, kept⟩
    · exact List.mem_singleton.mp written
    · rw [breaks] at kept
      cases kept

/-- **A character may be the separator of slugs exactly if it is no backslash**: then each text has a
slug, its words with that character between them. -/
theorem exists_isSeparatedBy_iff (sep : Char) (t : Text) :
    (∃ s, slugSeparated? [sep] .none t = some s ∧ IsSeparatedBy sep t s) ↔ sep ≠ '\\' := by
  rw [slugSeparated?, parseTemplate?_singleton]
  by_cases escape : sep = '\\'
  · rw [if_pos escape]
    simp [escape]
  · rw [if_neg escape]
    exact iff_of_true ⟨_, rfl, isSeparatedBy_slugWith sep t⟩ escape

/-- A backslash as the separator is refused, whatever the words. -/
theorem slugSeparated_by_backslash : slugSeparated? "\\" .none "a b" = none := by
  decide

end MarkdownSite.Text
