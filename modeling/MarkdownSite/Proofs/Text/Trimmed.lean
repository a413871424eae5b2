import MarkdownSite.Proofs.Text.Accents
import MarkdownSite.Proofs.Unicode.Blank

/-!
# The ends of a slug

A slug is what is between the breaks at both ends of the text, without accents and control
characters, and with a hyphen for each run of breaks. So the blanks around a text play no part for
its slug.
-/

namespace MarkdownSite.Text

open Unicode

/-! ## Ends -/

section Ends

variable {p : Char → Bool}

/-- A text is what is dropped at both ends around what stays. -/
theorem eq_append_stripWhere (p : Char → Bool) (t : Text) :
    ∃ before after, t = before ++ stripWhere p t ++ after ∧ (∀ c ∈ before, p c = true) ∧
      ∀ c ∈ after, p c = true := by
  have member {s : Text} {c : Char} (inside : c ∈ s.takeWhile p) : p c = true :=
    List.all_eq_true.mp List.all_takeWhile c inside
  let opened := t.dropWhile p
  refine ⟨t.takeWhile p, (opened.reverse.takeWhile p).reverse, ?_, fun c => member,
    fun c inside => member (List.mem_reverse.mp inside)⟩
  calc t = t.takeWhile p ++ opened.reverse.reverse := by
        rw [List.reverse_reverse, List.takeWhile_append_dropWhile]
    _ = t.takeWhile p ++ (opened.reverse.takeWhile p ++ opened.reverse.dropWhile p).reverse := by
        rw [List.takeWhile_append_dropWhile]
    _ = t.takeWhile p ++ stripWhere p t ++ (opened.reverse.takeWhile p).reverse := by
        rw [List.reverse_append, List.append_assoc]
        rfl

/-- What is dropped before a text is dropped with it. -/
theorem stripWhere_append {before : Text} (dropped : ∀ c ∈ before, p c = true) (t : Text) :
    stripWhere p (before ++ t) = stripWhere p t := by
  rw [stripWhere, List.dropWhile_append_of_pos dropped]
  rfl

/-- What is dropped after a text is dropped with it, where only the end is looked at. -/
theorem stripEndWhere_append {after : Text} (dropped : ∀ c ∈ after, p c = true) (t : Text) :
    stripEndWhere p (t ++ after) = stripEndWhere p t := by
  unfold stripEndWhere
  rw [List.reverse_append,
    List.dropWhile_append_of_pos fun c member => dropped c (List.mem_reverse.mp member)]

/-- What is dropped after a text is dropped with it. -/
theorem stripWhere_append_after {after : Text} (dropped : ∀ c ∈ after, p c = true) (t : Text) :
    stripWhere p (t ++ after) = stripWhere p t := by
  have atEnd (s : Text) : stripWhere p s = stripEndWhere p (s.dropWhile p) := rfl
  rw [atEnd, atEnd, List.dropWhile_append]
  split
  · rename_i nothing
    have none : t.dropWhile p = [] := List.isEmpty_iff.mp nothing
    rw [none, List.dropWhile_eq_nil_iff.mpr dropped]
  · exact stripEndWhere_append dropped _

/-- Nothing is dropped behind a character that stays. -/
theorem stripEndWhere_of_last {c : Char} (kept : ¬p c = true) (t : Text) :
    stripEndWhere p (t ++ [c]) = t ++ [c] := by
  rw [stripEndWhere, List.reverse_append, List.reverse_singleton, List.singleton_append,
    List.dropWhile_cons_of_neg kept, List.reverse_cons, List.reverse_reverse]

/-- All characters of a text are dropped, or there is a last one that stays. -/
theorem all_or_exists_last (p : Char → Bool) (t : Text) : (∀ c ∈ t, p c = true) ∨
    ∃ start c after, t = start ++ [c] ++ after ∧ ¬p c = true ∧ ∀ d ∈ after, p d = true := by
  induction t with
  | nil => exact .inl (by simp)
  | cons d t ih =>
    rcases ih with all | ⟨start, c, after, rfl, kept, behind⟩
    · by_cases dropped : p d = true
      · exact .inl (List.forall_mem_cons.mpr ⟨dropped, all⟩)
      · exact .inr ⟨[], d, t, rfl, dropped, all⟩
    · exact .inr ⟨d :: start, c, after, rfl, kept, behind⟩

end Ends

/-! ## Runs -/

section Runs

variable {p : Char → Bool} {x : Char} (separator : p x = true)

/-- A run that is begun becomes one separator, and what follows it begins anew. -/
theorem replaceRunsFrom_of_run {run : Text} (begun : run ≠ []) (t : Text) :
    replaceRunsFrom p (fun _ => [x]) run t =
      x :: replaceRuns p (fun _ => [x]) (t.dropWhile p) := by
  induction t generalizing run with
  | nil => simp [replaceRunsFrom, replaceRuns, begun]
  | cons c t ih =>
    rw [replaceRunsFrom]
    split
    · rename_i replaced
      rw [ih (List.cons_ne_nil c run), List.dropWhile_cons_of_pos replaced]
    · rename_i kept
      rw [List.dropWhile_cons_of_neg kept, replaceRuns, replaceRunsFrom, if_neg kept]
      simp [begun]

/-- Runs on both sides of a character that stays are replaced by themselves. -/
theorem replaceRunsFrom_append_cons {c : Char} (kept : ¬p c = true) (f : Text → Text)
    (run s t : Text) :
    replaceRunsFrom p f run (s ++ c :: t) = replaceRunsFrom p f run s ++ c :: replaceRuns p f t := by
  induction s generalizing run with
  | nil =>
    rw [List.nil_append, replaceRunsFrom.eq_2, if_neg kept]
    rfl
  | cons d s ih =>
    rw [List.cons_append, replaceRunsFrom, replaceRunsFrom]
    split
    · exact ih _
    · rw [ih, List.append_assoc, List.cons_append]

include separator

/-- No two separators stand side by side while runs are replaced by one. -/
theorem isChain_separators (run t : Text) :
    (replaceRunsFrom p (fun _ => [x]) run t).IsChain fun c d => ¬(c = x ∧ d = x) := by
  induction t generalizing run with
  | nil => cases run <;> simp [replaceRunsFrom]
  | cons c t ih =>
    rw [replaceRunsFrom]
    split
    · exact ih _
    · rename_i kept
      have other : c ≠ x := fun same => kept (same ▸ separator)
      have joined : (c :: replaceRunsFrom p (fun _ => [x]) [] t).IsChain
          fun c d => ¬(c = x ∧ d = x) :=
        (ih []).cons fun d _ both => other both.1
      cases run with
      | nil => exact joined
      | cons e run =>
        refine joined.cons fun d first both => other ?_
        rw [List.head?_cons, Option.mem_some_iff] at first
        exact first.trans both.2

/-- No two separators stand side by side where runs are replaced by one. -/
theorem isChain_replaceRuns (t : Text) :
    (replaceRuns p (fun _ => [x]) t).IsChain fun c d => ¬(c = x ∧ d = x) :=
  isChain_separators separator [] t

/-- The separators at the start come from breaks there. -/
theorem dropWhile_replaceRuns (t : Text) :
    (replaceRuns p (fun _ => [x]) t).dropWhile (· == x) =
      replaceRuns p (fun _ => [x]) (t.dropWhile p) := by
  -- what starts with another character keeps its start
  have settled {s : Text} (start : ∀ c ∈ s.head?, ¬p c = true) :
      (replaceRuns p (fun _ => [x]) s).dropWhile (· == x) = replaceRuns p (fun _ => [x]) s := by
    cases s with
    | nil => rfl
    | cons c s =>
      have kept : ¬p c = true := start c rfl
      have other : c ≠ x := fun same => kept (same ▸ separator)
      rw [replaceRuns, replaceRunsFrom, if_neg kept]
      exact List.dropWhile_cons_of_neg (by simpa using other)
  cases t with
  | nil => rfl
  | cons c t =>
    by_cases replaced : p c = true
    · have opened : replaceRuns p (fun _ => [x]) (c :: t) =
          x :: replaceRuns p (fun _ => [x]) (t.dropWhile p) := by
        rw [replaceRuns, replaceRunsFrom, if_pos replaced,
          replaceRunsFrom_of_run (List.cons_ne_nil c [])]
      rw [opened, List.dropWhile_cons_of_pos (by simp), List.dropWhile_cons_of_pos replaced]
      refine settled fun d first => ?_
      have stopped := List.head?_dropWhile_not p t
      rw [Option.mem_def.mp first] at stopped
      simpa using stopped
    · rw [List.dropWhile_cons_of_neg replaced]
      refine settled fun d first => ?_
      rwa [← Option.mem_some_iff.mp first]

/-- The separators at the end come from breaks there. -/
theorem stripEndWhere_replaceRuns (t : Text) :
    stripEndWhere (· == x) (replaceRuns p (fun _ => [x]) t) =
      replaceRuns p (fun _ => [x]) (stripEndWhere p t) := by
  have separators {s : Text} (breaks : ∀ c ∈ s, p c = true) :
      ∀ c ∈ replaceRuns p (fun _ => [x]) s, (c == x) = true := by
    intro c member
    rcases mem_replaceRunsFrom member with ⟨_, written⟩ | ⟨inside, kept⟩
    · exact beq_iff_eq.mpr (List.mem_singleton.mp written)
    · rw [breaks c inside] at kept
      cases kept
  have cut {c : Char} (kept : ¬p c = true) (s r : Text) :
      replaceRuns p (fun _ => [x]) (s ++ [c] ++ r) =
        replaceRuns p (fun _ => [x]) s ++ [c] ++ replaceRuns p (fun _ => [x]) r := by
    rw [List.append_assoc, List.append_assoc]
    exact replaceRunsFrom_append_cons kept _ [] s r
  rcases all_or_exists_last p t with all | ⟨start, c, after, rfl, kept, behind⟩
  · have nothing := stripEndWhere_append all []
    have none := stripEndWhere_append (separators all) []
    rw [List.nil_append] at nothing none
    rw [nothing, none]
    rfl
  · have other : ¬(c == x) = true := fun same => kept (beq_iff_eq.mp same ▸ separator)
    have bare := cut kept start []
    rw [List.append_nil] at bare
    rw [stripEndWhere_append behind, stripEndWhere_of_last kept, cut kept,
      stripEndWhere_append (separators behind), stripEndWhere_of_last (p := (· == x)) other, bare]
    exact (List.append_nil _).symm

/-- **What is left without the separators at the ends comes from the text without the breaks at its
ends.** -/
theorem stripWhere_replaceRuns (t : Text) :
    stripWhere (· == x) (replaceRuns p (fun _ => [x]) t) =
      replaceRuns p (fun _ => [x]) (stripWhere p t) := by
  have atEnd (q : Char → Bool) (s : Text) : stripWhere q s = stripEndWhere q (s.dropWhile q) := rfl
  rw [atEnd, atEnd, dropWhile_replaceRuns separator, stripEndWhere_replaceRuns separator]

end Runs

/-- Where no two copies stand side by side, none are collapsed. -/
theorem collapseCopies_of_isChain {x : Char} {f : Text → Text} {fuel : Nat} {t : Text}
    (enough : t.length ≤ fuel) (apart : t.IsChain fun c d => ¬(c = x ∧ d = x)) :
    collapseCopies [x] f fuel t = t := by
  induction fuel generalizing t with
  | zero => rfl
  | succ fuel ih =>
    cases t with
    | nil => rfl
    | cons c t =>
      have few : ¬((c :: t).takeWhile (· == x)).length ≥ 2 := by
        intro copies
        cases t with
        | nil =>
          have bound := (List.takeWhile_prefix (l := [c]) (· == x)).length_le
          rw [List.length_singleton] at bound
          omega
        | cons d t =>
          have differ := (List.isChain_cons_cons.mp apart).1
          rw [List.takeWhile_cons] at copies
          split at copies
          · rename_i first
            rw [List.takeWhile_cons] at copies
            split at copies
            · rename_i second
              exact differ ⟨beq_iff_eq.mp first, beq_iff_eq.mp second⟩
            · simp at copies
          · simp at copies
      simp only [collapseCopies, leadingCopies_singleton enough, if_neg few]
      rw [ih (Nat.le_of_succ_le_succ enough) (List.isChain_cons.mp apart).2]

/-! ## Slugs -/

/-- **A slug is what is between the breaks at both ends**, with a hyphen for each run of breaks, in
the letter case of the transform: no separators are left to collapse. -/
theorem slug_eq_replaceRuns (transform : CaseTransform) (t : Text) :
    slug transform t = transform.apply (replaceRuns isSlugBreak (fun _ => ['-'])
      (stripWhere isSlugBreak ((removeAccents t).filter fun c => !isControl c))) := by
  have hyphen : isSlugBreak '-' = true := by decide
  have template : fillTemplate [.text "-"] = fun _ => ['-'] := rfl
  simp only [slug, slugWith, template]
  rw [show ("-" : Text) = ['-'] by decide, if_neg (by decide),
    collapseCopies_of_isChain (Nat.le_refl _) (isChain_replaceRuns hyphen _),
    trimCopies_singleton, stripWhere_replaceRuns hyphen]

/-- Blanks stay blanks when accents are removed. -/
theorem foldAccents_blank {c : Char} (blank : isBlank c = true) : foldAccents c = c := by
  obtain ⟨d, expanded, -⟩ := canonicalExpansion_blank blank
  rw [foldAccents]
  split
  · rfl
  · simp [expanded]

/-- Blanks around a text stay around what is left without its accents. -/
theorem exists_removeAccents_append {before after : Text} (starts : ∀ c ∈ before, isBlank c = true)
    (ends : ∀ c ∈ after, isBlank c = true) (t : Text) :
    ∃ kept left, (∀ c ∈ kept, isBlank c = true) ∧ (∀ c ∈ left, isBlank c = true) ∧
      removeAccents (before ++ t ++ after) = kept ++ removeAccents t ++ left := by
  obtain ⟨left, leftBlank, normalLeft⟩ := exists_normalize_append_blanks ends (before ++ t)
  obtain ⟨kept, keptBlank, normalKept⟩ := exists_normalize_append starts t
  have folded {s : Text} (blanks : ∀ c ∈ s, isBlank c = true) : s.map foldAccents = s := by
    rw [List.map_congr_left fun c member => foldAccents_blank (blanks c member), List.map_id']
  refine ⟨kept, left, keptBlank, leftBlank, ?_⟩
  rw [removeAccents, normalLeft, normalKept, List.map_append, List.map_append, folded keptBlank,
    folded leftBlank]
  rfl

/-- **The blanks around a text play no part for its slug.** -/
theorem slug_trim (transform : CaseTransform) (t : Text) :
    slug transform (trim t) = slug transform t := by
  obtain ⟨before, after, whole, starts, ends⟩ := eq_append_stripWhere isBlank t
  obtain ⟨kept, left, keptBlank, leftBlank, bare⟩ :=
    exists_removeAccents_append starts ends (stripWhere isBlank t)
  have breaks {s : Text} (blanks : ∀ c ∈ s, isBlank c = true) :
      ∀ c ∈ s.filter fun c => !isControl c, isSlugBreak c = true := by
    intro c member
    rw [isSlugBreak, blanks c (List.mem_of_mem_filter member), Bool.true_or]
  rw [slug_eq_replaceRuns, slug_eq_replaceRuns transform t]
  conv_rhs => rw [whole, bare, List.filter_append, List.filter_append,
    stripWhere_append_after (breaks leftBlank), stripWhere_append (breaks keptBlank)]
  rfl

end MarkdownSite.Text
