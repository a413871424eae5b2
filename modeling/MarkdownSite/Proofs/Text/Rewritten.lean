import MarkdownSite.Proofs.Text.Basic

/-!
# Texts rewritten piece by piece

A pass over a text replaces some of its pieces and keeps the characters between them. What holds of
each replacement holds of the whole pass: which characters it can bring, what it leaves of the runs
of a character, and what it spells. Replacing a text everywhere is such a pass, and after it no run
is left that it looks for.
-/

namespace MarkdownSite.Text

/-- A run of a character does not reach into a part that lacks it. -/
theorem replicate_isInfix_of_append {c : Char} {n : Nat} {s t : Text} (absent : c ∉ s)
    (run : List.replicate n c <:+: s ++ t) : List.replicate n c <:+: t := by
  cases n with
  | zero => exact (List.nil_prefix).isInfix
  | succ n =>
    induction s with
    | nil => exact run
    | cons d s ih =>
      rw [List.mem_cons, not_or] at absent
      rcases List.infix_cons_iff.mp run with first | later
      · rw [List.replicate_succ, List.cons_prefix_cons] at first
        exact absurd first.1 absent.1
      · exact ih absent.2 later

/-! ## Passes -/

/-- A text is rewritten piece by piece: a piece is replaced as the rule says, and all other
characters stay. -/
inductive Rewritten (rule : Text → Text → Prop) : Text → Text → Prop
  | nil : Rewritten rule [] []
  | same (c : Char) {t r : Text} (rest : Rewritten rule t r) : Rewritten rule (c :: t) (c :: r)
  | piece {a b t r : Text} (ruled : rule a b) (rest : Rewritten rule t r) :
      Rewritten rule (a ++ t) (b ++ r)

/-- The rule that replaces one text by another. -/
def Becomes (p r a b : Text) : Prop := a = p ∧ b = r

namespace Rewritten

variable {rule : Text → Text → Prop} {t r : Text}

/-- A text may stay as it is. -/
theorem refl (rule : Text → Text → Prop) (t : Text) : Rewritten rule t t := by
  induction t with
  | nil => exact .nil
  | cons c t ih => exact .same c ih

/-- A text in which there is nothing to replace stays as it is. -/
theorem eq_of_absent (rewritten : Rewritten rule t r) (absent : ∀ a b, rule a b → ¬a <:+: t) :
    r = t := by
  induction rewritten with
  | nil => rfl
  | same c rest ih =>
    rw [ih fun a b ruled inside => absent a b ruled (inside.trans (List.suffix_cons c _).isInfix)]
  | @piece a b t r ruled rest ih =>
    exact absurd (List.prefix_append a t).isInfix (absent a b ruled)

/-- Where each replacement spells what it replaces, the new text spells the old one. -/
theorem flatMap_eq {spell : Char → Text} (rewritten : Rewritten rule t r)
    (kept : ∀ a b, rule a b → b.flatMap spell = a.flatMap spell) :
    r.flatMap spell = t.flatMap spell := by
  induction rewritten with
  | nil => rfl
  | same c rest ih => rw [List.flatMap_cons, List.flatMap_cons, ih]
  | piece ruled rest ih =>
    rw [List.flatMap_append, List.flatMap_append, kept _ _ ruled, ih]

section Runs

variable {d : Char} {n : Nat} (outside : ∀ a b, rule a b → b ≠ [] ∧ d ∉ b)

include outside

/-- A run of a character that no replacement has, at the start of the new text, stood at the start
of the old one. -/
theorem replicate_isPrefix (rewritten : Rewritten rule t r) (run : List.replicate n d <+: r) :
    List.replicate n d <+: t := by
  induction rewritten generalizing n with
  | nil => exact run
  | same c rest ih =>
    cases n with
    | zero => exact List.nil_prefix
    | succ n =>
      rw [List.replicate_succ, List.cons_prefix_cons] at run ⊢
      exact ⟨run.1, ih run.2⟩
  | @piece a b t r ruled rest ih =>
    cases n with
    | zero => exact List.nil_prefix
    | succ n =>
      obtain ⟨present, absent⟩ := outside a b ruled
      obtain ⟨e, tail, rfl⟩ := List.exists_cons_of_ne_nil present
      rw [List.replicate_succ, List.cons_append, List.cons_prefix_cons] at run
      exact absurd (run.1 ▸ List.mem_cons_self) absent

/-- A run of a character that no replacement has stood in the old text. -/
theorem replicate_isInfix (rewritten : Rewritten rule t r) (run : List.replicate n d <:+: r) :
    List.replicate n d <:+: t := by
  induction rewritten with
  | nil => exact run
  | same c rest ih =>
    rcases List.infix_cons_iff.mp run with first | later
    · exact (replicate_isPrefix outside (.same c rest) first).isInfix
    · exact List.infix_cons (ih later)
  | @piece a b t r ruled rest ih =>
    have behind : List.replicate n d <:+: r :=
      replicate_isInfix_of_append (outside a b ruled).2 run
    exact (ih behind).trans (List.suffix_append a t).isInfix

end Runs

end Rewritten

/-- A text is rewritten when each place of a character is replaced by another character. -/
theorem rewritten_replaceChar (a b : Char) (t : Text) :
    Rewritten (Becomes [a] [b]) t (replaceChar a b t) := by
  induction t with
  | nil => exact .nil
  | cons c t ih =>
    unfold replaceChar at ih ⊢
    rw [List.map_cons]
    split
    · rename_i same
      exact .piece ⟨congrArg ([·]) same, rfl⟩ ih
    · exact .same c ih

/-- A character that is replaced by another is left nowhere. -/
theorem not_mem_replaceChar {a b : Char} (differ : b ≠ a) (t : Text) : a ∉ replaceChar a b t := by
  intro member
  obtain ⟨c, -, same⟩ := List.mem_map.mp member
  split at same
  · exact differ same
  · rename_i other
    exact other same

/-! ## Replacing everywhere -/

section Replace

variable {p r : Text}

/-- The characters of a place already replaced are dropped. -/
theorem replaceFrom_eq_drop (skip : Nat) (t : Text) :
    replaceFrom p r skip t = replace p r (t.drop skip) := by
  induction t generalizing skip with
  | nil => cases skip <;> rfl
  | cons c t ih =>
    cases skip with
    | zero => rfl
    | succ skip => exact ih skip

/-- A place of the pattern at the start of a text is replaced. -/
theorem replace_append (present : p ≠ []) (t : Text) :
    replace p r (p ++ t) = r ++ replace p r t := by
  obtain ⟨c, tail, rfl⟩ := List.exists_cons_of_ne_nil present
  have start : startsWith (c :: tail) (c :: (tail ++ t)) = true :=
    startsWith_iff.mpr (List.prefix_append (c :: tail) t)
  rw [List.cons_append, replace, replaceFrom, if_pos start, replaceFrom_eq_drop]
  simp

/-- A character at which no place of the pattern starts stays. -/
theorem replace_cons {c : Char} {t : Text} (other : ¬p <+: c :: t) :
    replace p r (c :: t) = c :: replace p r t := by
  rw [replace, replaceFrom, if_neg fun start => other (startsWith_iff.mp start)]
  rfl

/-- Induction over the places of a pattern in a text, from left to right. -/
@[elab_as_elim]
theorem placewise {motive : Text → Prop} (p : Text) (present : p ≠ []) (nil : motive [])
    (place : ∀ t, motive t → motive (p ++ t))
    (other : ∀ c t, ¬p <+: c :: t → motive t → motive (c :: t)) (t : Text) : motive t := by
  induction shorter : t.length using Nat.strong_induction_on generalizing t with
  | _ length ih =>
    cases t with
    | nil => exact nil
    | cons c t =>
      by_cases start : p <+: c :: t
      · obtain ⟨rest, whole⟩ := start
        have counted := congrArg List.length whole
        rw [List.length_append] at counted
        have positive := List.length_pos_iff.mpr present
        exact whole ▸ place rest (ih rest.length (by omega) rest rfl)
      · exact other c t start (ih t.length (by simp [← shorter]) t rfl)

variable (present : p ≠ [])

include present

/-- A text is rewritten when each place of a pattern is replaced. -/
theorem rewritten_replace (t : Text) : Rewritten (Becomes p r) t (replace p r t) := by
  induction t using placewise p present with
  | nil => exact .nil
  | place t ih =>
    rw [replace_append present]
    exact .piece ⟨rfl, rfl⟩ ih
  | other c t start ih =>
    rw [replace_cons start]
    exact .same c ih

/-- No place of a pattern reaches over a character that it lacks. -/
theorem replace_append_cons {c : Char} (absent : c ∉ p) (s t : Text) :
    replace p r (s ++ c :: t) = replace p r s ++ c :: replace p r t := by
  induction s using placewise p present with
  | nil =>
    rw [List.nil_append, replace_cons]
    · rfl
    · intro start
      obtain ⟨d, tail, rfl⟩ := List.exists_cons_of_ne_nil present
      rw [List.cons_prefix_cons] at start
      exact absent (start.1 ▸ List.mem_cons_self)
  | place s ih => rw [List.append_assoc, replace_append present, ih, replace_append present,
      List.append_assoc]
  | other d s start ih =>
    have elsewhere : ¬p <+: d :: (s ++ c :: t) := by
      rw [← List.cons_append, isPrefix_append_iff (by simpa using absent)]
      exact start
    rw [List.cons_append, replace_cons elsewhere, ih, replace_cons start, List.cons_append]

end Replace

/-- Replacing the runs of some length of a character leaves no run of that length. -/
theorem not_isInfix_replace {c : Char} {n : Nat} {r : Text} (long : n ≠ 0) (present : r ≠ [])
    (absent : c ∉ r) (t : Text) :
    ¬List.replicate n c <:+: replace (List.replicate n c) r t := by
  have run : List.replicate n c ≠ [] := by simpa using long
  have outside : ∀ a b, Becomes (List.replicate n c) r a b → b ≠ [] ∧ c ∉ b := by
    rintro a b ⟨rfl, rfl⟩
    exact ⟨present, absent⟩
  induction t using placewise (List.replicate n c) run with
  | nil => exact fun inside => run (List.infix_nil.mp inside)
  | place t ih =>
    rw [replace_append run]
    exact fun inside => ih (replicate_isInfix_of_append absent inside)
  | other d t start ih =>
    have rewritten := rewritten_replace (r := r) run (d :: t)
    rw [replace_cons start] at rewritten ⊢
    intro inside
    rcases List.infix_cons_iff.mp inside with first | later
    · exact start (rewritten.replicate_isPrefix outside first)
    · exact ih later

end MarkdownSite.Text
