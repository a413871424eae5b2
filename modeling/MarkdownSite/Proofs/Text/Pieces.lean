import MarkdownSite.Proofs.Text.Basic

/-!
# Pieces of texts

A text that is split at some characters is its pieces with such a character between neighbours. The
pieces of two texts with such a character between them are those of the one and those of the other,
and all else about pieces follows from this.
-/

namespace MarkdownSite.Text

/-! ## Splitting at characters of a kind -/

section Where

variable {p : Char → Bool}

/-- A text between dividers has at least one piece. -/
theorem splitWhere_ne_nil (p : Char → Bool) (t : Text) : splitWhere p t ≠ [] := by
  cases t with
  | nil => simp [splitWhere]
  | cons c t =>
    rw [splitWhere]
    split
    · simp
    · split <;> simp

/-- A text without dividers is a single piece. -/
theorem splitWhere_of_forall {t : Text} (whole : ∀ c ∈ t, p c = false) : splitWhere p t = [t] := by
  induction t with
  | nil => rfl
  | cons c t ih =>
    obtain ⟨first, others⟩ := List.forall_mem_cons.mp whole
    rw [splitWhere, ih others]
    simp [first]

/-- The pieces of a text are those before a divider and those after it. -/
theorem splitWhere_append_cons {c : Char} (divides : p c = true) (s t : Text) :
    splitWhere p (s ++ c :: t) = splitWhere p s ++ splitWhere p t := by
  induction s with
  | nil => simp [splitWhere, divides]
  | cons d s ih =>
    rw [List.cons_append, splitWhere, splitWhere, ih]
    split
    · rfl
    · cases pieces : splitWhere p s with
      | nil => exact absurd pieces (splitWhere_ne_nil p s)
      | cons piece rest => rfl

end Where

/-! ## Splitting at one character -/

/-- A text without the character between pieces is a single piece. -/
theorem splitOn_of_not_mem {c : Char} {t : Text} (absent : c ∉ t) : splitOn c t = [t] :=
  splitWhere_of_forall fun _ member => beq_false_of_ne fun same => absent (same ▸ member)

/-- The pieces of a text are those before a place of the character and those after it. -/
theorem splitOn_append_cons (c : Char) (s t : Text) :
    splitOn c (s ++ c :: t) = splitOn c s ++ splitOn c t :=
  splitWhere_append_cons (by simp) s t

/-- A text up to the first place of the character is the first piece. -/
theorem splitOn_piece {c : Char} {piece : Text} (absent : c ∉ piece) (rest : Text) :
    splitOn c (piece ++ c :: rest) = piece :: splitOn c rest := by
  rw [splitOn_append_cons, splitOn_of_not_mem absent]
  rfl

/-- Induction over the pieces of a text: what holds of a last piece, and of a piece with the
character and a rest that it holds of, holds of every text. -/
@[elab_as_elim]
theorem piecewise {motive : Text → Prop} (c : Char)
    (last : ∀ piece, c ∉ piece → motive piece)
    (more : ∀ piece rest, c ∉ piece → motive rest → motive (piece ++ c :: rest)) (t : Text) :
    motive t := by
  by_cases member : c ∈ t
  · obtain ⟨piece, rest, whole, absent⟩ := List.eq_append_cons_of_mem member
    rw [whole]
    exact more piece rest absent (piecewise c last more rest)
  · exact last t member
termination_by t.length
decreasing_by
  rw [whole, List.length_append, List.length_cons]
  omega

/-- A character of a text is the one between pieces, or it stands in a piece. -/
theorem mem_splitOn {c d : Char} {t : Text} (member : d ∈ t) :
    d = c ∨ ∃ piece ∈ splitOn c t, d ∈ piece := by
  induction t using piecewise c with
  | last piece absent => exact .inr ⟨piece, by rw [splitOn_of_not_mem absent]; simp, member⟩
  | more piece rest absent ih =>
    rw [splitOn_piece absent]
    rcases List.mem_append.mp member with here | later
    · exact .inr ⟨piece, List.mem_cons_self, here⟩
    · rcases List.mem_cons.mp later with same | later
      · exact .inl same
      · exact (ih later).imp_right fun ⟨other, listed, inside⟩ =>
          ⟨other, List.mem_cons_of_mem piece listed, inside⟩

/-- No piece has the character between pieces. -/
theorem not_mem_of_mem_splitOn {c : Char} {t piece : Text} (listed : piece ∈ splitOn c t) :
    c ∉ piece := by
  induction t using piecewise c with
  | last whole absent =>
    rw [splitOn_of_not_mem absent, List.mem_singleton] at listed
    rwa [listed]
  | more first rest absent ih =>
    rw [splitOn_piece absent] at listed
    rcases List.mem_cons.mp listed with rfl | later
    · exact absent
    · exact ih later

/-! ## Joining -/

/-- A piece before others is joined to them by what stands between pieces. -/
theorem join_cons (sep piece : Text) {pieces : List Text} (present : pieces ≠ []) :
    join sep (piece :: pieces) = piece ++ sep ++ join sep pieces := by
  obtain ⟨next, others, rfl⟩ := List.exists_cons_of_ne_nil present
  rfl

/-- Pieces that are joined are the pieces of the whole. -/
theorem splitOn_join {c : Char} {pieces : List Text} (present : pieces ≠ [])
    (single : ∀ piece ∈ pieces, c ∉ piece) : splitOn c (join [c] pieces) = pieces := by
  induction pieces with
  | nil => exact absurd rfl present
  | cons piece pieces ih =>
    obtain ⟨own, others⟩ := List.forall_mem_cons.mp single
    cases pieces with
    | nil => exact splitOn_of_not_mem own
    | cons next pieces =>
      rw [join_cons _ _ (List.cons_ne_nil next pieces), List.append_assoc, List.singleton_append,
        splitOn_piece own, ih (List.cons_ne_nil _ _) others]

/-- The pieces of a text are joined to the text. -/
theorem join_splitOn (c : Char) (t : Text) : join [c] (splitOn c t) = t := by
  induction t using piecewise c with
  | last piece absent =>
    rw [splitOn_of_not_mem absent]
    rfl
  | more piece rest absent ih =>
    have present : splitOn c rest ≠ [] := splitWhere_ne_nil _ rest
    rw [splitOn_piece absent, join_cons _ _ present, ih, List.append_assoc]
    rfl

end MarkdownSite.Text
