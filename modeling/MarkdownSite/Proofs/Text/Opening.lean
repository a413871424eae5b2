import Mathlib.Data.List.DropRight
import MarkdownSite.Proofs.Text.Typography

/-!
# Which quotes open

The passes for one kind of quote turn each quote by the character before it, as the pass finds it.
So a quote cuts the text in two: what stands before it becomes what it becomes alone, and its last
character decides. By then hyphens are dashes, and a single quote is a glyph when a double quote
follows it.
-/

namespace MarkdownSite.Text

/-! ## Dashes -/

/-- A character that is no hyphen stays between the dashes before and after it. -/
theorem withDashes_append_cons {c : Char} (other : c ≠ '-') (s t : Text) :
    withDashes (s ++ c :: t) = withDashes s ++ c :: withDashes t := by
  have three : c ∉ ("---" : Text) := by simpa using other
  have two : c ∉ ("--" : Text) := by simpa using other
  rw [withDashes, replace_append_cons (by decide) three, replace_append_cons (by decide) two]
  rfl

/-- Three hyphens at the start of a text become an em dash. -/
theorem withDashes_three (t : Text) : withDashes ("---" ++ t) = '—' :: withDashes t := by
  rw [withDashes, replace_append (by decide)]
  exact replace_append_cons (s := []) (by decide) (by decide) _

/-- The hyphens with which a text ends. -/
def hyphensAtEnd (t : Text) : Nat := (t.rtakeWhile (· == '-')).length

/-- What hyphens end in as dashes, by how many are left over from em dashes. -/
def lastDash : (left : Nat) → Char
  | 0 => '—'
  | 1 => '-'
  | _ => '–'

/-- Hyphens become em dashes and what is left over. -/
theorem getLast?_withDashes_replicate : ∀ n ≠ 0,
    (withDashes (List.replicate n '-')).getLast? = some (lastDash (n % 3))
  | 1, _ => by decide
  | 2, _ => by decide
  | 3, _ => by decide
  | n + 4, _ => by
    have three : List.replicate (n + 4) '-' = "---" ++ List.replicate (n + 1) '-' := rfl
    have left : (n + 4) % 3 = (n + 1) % 3 := Nat.add_mod_right (n + 1) 3
    rw [three, withDashes_three, List.getLast?_cons,
      getLast?_withDashes_replicate (n + 1) (by simp), left, Option.getD_some]

/-- A text is hyphens only, or it has another character before the hyphens with which it ends. -/
theorem eq_append_hyphensAtEnd (t : Text) :
    t = List.replicate (hyphensAtEnd t) '-' ∨
      ∃ s c, c ≠ '-' ∧ t = s ++ c :: List.replicate (hyphensAtEnd t) '-' := by
  have run : t.rtakeWhile (· == '-') = List.replicate (hyphensAtEnd t) '-' :=
    List.eq_replicate_iff.mpr
      ⟨rfl, fun c member => eq_of_beq (List.mem_rtakeWhile_imp (p := (· == '-')) member)⟩
  have whole : t.rdropWhile (· == '-') ++ List.replicate (hyphensAtEnd t) '-' = t :=
    run ▸ List.rdropWhile_append_rtakeWhile
  by_cases empty : t.rdropWhile (· == '-') = []
  · rw [empty] at whole
    exact .inl whole.symm
  · have last := List.rdropWhile_last_not (· == '-') t empty
    refine .inr ⟨(t.rdropWhile (· == '-')).dropLast, (t.rdropWhile (· == '-')).getLast empty,
      by simpa using last, ?_⟩
    rw [← List.singleton_append, ← List.append_assoc, List.dropLast_append_getLast, whole]

/-- A text ends as before when its dashes are set, unless it ends in hyphens. -/
theorem getLast?_withDashes (t : Text) :
    (withDashes t).getLast? =
      if hyphensAtEnd t = 0 then t.getLast? else some (lastDash (hyphensAtEnd t % 3)) := by
  have hyphens := getLast?_withDashes_replicate (hyphensAtEnd t)
  rcases eq_append_hyphensAtEnd t with whole | ⟨s, c, other, whole⟩
  · split
    · rename_i none
      rw [whole, none]
      rfl
    · rename_i some
      rw [← hyphens some, ← whole]
  · split
    · rename_i none
      rw [none] at whole
      rw [whole, List.replicate_zero, withDashes_append_cons other]
      simp [withDashes, replace, replaceFrom]
    · rename_i some
      have kept := hyphens some
      rw [whole, withDashes_append_cons other, List.getLast?_append, List.getLast?_cons, ← whole,
        kept]
      rfl

/-! ## The passes for one kind of quote -/

/-- Turns each quote into a glyph: an opening one after a character that satisfies `before`, else a
closing one. A quote at the start opens if `opens` says so. -/
def turnQuotes (before : Char → Bool) (quote opening closing : Char) : (opens : Bool) → Text → Text
  | _, [] => []
  | opens, c :: t =>
    (if c = quote then if opens then opening else closing else c) ::
      turnQuotes before quote opening closing (before c) t

/-- Whether a quote opens behind a text, if at its start it does as `opens` says. -/
def opensBehind (before : Char → Bool) (opens : Bool) (t : Text) : Bool :=
  (t.getLast?.map before).getD opens

section Turn

variable {before : Char → Bool} {quote opening closing : Char}

/-- The first of two parts of a text matters to the second only by whether quotes open behind it. -/
theorem turnQuotes_append (opens : Bool) (s t : Text) :
    turnQuotes before quote opening closing opens (s ++ t) =
      turnQuotes before quote opening closing opens s ++
        turnQuotes before quote opening closing (opensBehind before opens s) t := by
  induction s generalizing opens with
  | nil => rfl
  | cons c s ih =>
    have behind : opensBehind before opens (c :: s) = opensBehind before (before c) s := by
      simp only [opensBehind, List.getLast?_cons, Option.map_some, Option.getD_some]
      cases s.getLast? <;> rfl
    rw [List.cons_append, turnQuotes, turnQuotes, ih, behind, List.cons_append]

/-- Where quotes do not open one behind another, closing those that are left after the opening ones
turns each by the character before it. -/
theorem turnQuotes_eq_from (quiet : before quote = false) (turned : opening ≠ quote) (t : Text) :
    replaceChar quote closing (openQuotesFrom before quote opening t) =
      turnQuotes before quote opening closing false t := by
  unfold replaceChar
  fun_induction openQuotesFrom before quote opening t with
  | case1 c d t opens ih =>
    obtain ⟨first, rfl⟩ := opens
    simp [turnQuotes, ih, first, quiet, turned]
  | case2 c d t closes ih =>
    have later : turnQuotes before quote opening closing (before c) (d :: t) =
        turnQuotes before quote opening closing false (d :: t) := by
      rw [turnQuotes, turnQuotes]
      cases first : before c with
      | false => rfl
      | true =>
        have other : d ≠ quote := fun same => closes ⟨first, same⟩
        rw [if_neg other, if_neg other]
    calc _ = (if c = quote then closing else c) ::
          turnQuotes before quote opening closing false (d :: t) := by rw [List.map_cons, ih]
      _ = turnQuotes before quote opening closing false (c :: d :: t) :=
          congrArg ((if c = quote then closing else c) :: ·) later.symm
  | case3 t short =>
    cases t with
    | nil => rfl
    | cons c t =>
      cases t with
      | nil => simp [turnQuotes]
      | cons d t => exact absurd rfl (short c d t)

/-- The passes for one kind of quote turn each by the character before it, the first in the text
into an opening glyph. -/
theorem turnQuotes_eq (quiet : before quote = false) (turned : opening ≠ quote) (t : Text) :
    replaceChar quote closing (openQuotes before quote opening t) =
      turnQuotes before quote opening closing true t := by
  cases t with
  | nil => rfl
  | cons c t =>
    have rest (s : Text) : replaceChar quote closing (openQuotesFrom before quote opening s) =
        turnQuotes before quote opening closing false s :=
      turnQuotes_eq_from quiet turned s
    rw [openQuotes]
    split
    · rename_i same
      subst same
      rw [turnQuotes, quiet, ← rest]
      simp [replaceChar, turned]
    · rename_i other
      rw [rest (c :: t), turnQuotes, turnQuotes, if_neg other, if_neg other]

end Turn

/-- After these characters, as dashes are set, a single quote opens. -/
def singleOpens (c : Char) : Bool := opensAfter c || c == '"'

/-- After these characters, as dashes and single quotes are set, a double quote opens. -/
def Quotes.doubleOpens (q : Quotes) (c : Char) : Bool := opensAfter c || c == q.openSingle

/-- Whether a straight quote opens behind a text, as the pass for it finds the end of the text. -/
def Quotes.opensAt (q : Quotes) (quote : Char) (before : Text) : Bool :=
  if quote = '"' then opensBehind q.doubleOpens true (withSingles q (withDashes before))
  else opensBehind singleOpens true (withDashes before)

/-- What becomes of a text behind which quotes open as `single` and `double` say. -/
def smartenFrom (q : Quotes) (single double : Bool) (t : Text) : Text :=
  let singles := turnQuotes singleOpens '\'' q.openSingle q.closeSingle single (withDashes t)
  replace "..." "…" (turnQuotes q.doubleOpens '"' q.openDouble q.closeDouble double singles)

/-- The glyph for a straight quote that opens or closes. -/
def Quotes.glyph (q : Quotes) (quote : Char) (opens : Bool) : Char :=
  if quote = '"' then if opens then q.openDouble else q.closeDouble
  else if opens then q.openSingle else q.closeSingle

/-- A glyph for quotes is a glyph. -/
theorem Quotes.glyph_mem (q : Quotes) (quote : Char) (opens : Bool) :
    q.glyph quote opens ∈ q.toText := by
  unfold glyph toText
  split <;> split <;> simp

section Apart

variable {q : Quotes} (apart : ∀ c ∈ ("-'\"." : Text), c ∉ q.toText)

include apart

/-- A glyph is neither a straight quote nor a full stop. -/
theorem Quotes.ne_of_apart {g : Char} (glyph : g ∈ q.toText) : g ≠ '\'' ∧ g ≠ '"' ∧ g ≠ '.' :=
  ⟨ne_of_mem_of_not_mem glyph (apart _ (by decide)),
    ne_of_mem_of_not_mem glyph (apart _ (by decide)),
    ne_of_mem_of_not_mem glyph (apart _ (by decide))⟩

/-- Single quotes are turned by the characters before them. -/
theorem withSingles_eq (t : Text) :
    withSingles q t = turnQuotes singleOpens '\'' q.openSingle q.closeSingle true t :=
  turnQuotes_eq (by decide) (Quotes.ne_of_apart apart (by simp [Quotes.toText])).1 t

/-- A double quote does not open right behind another. -/
theorem Quotes.doubleOpens_double : q.doubleOpens '"' = false := by
  have openSingle := Quotes.ne_of_apart apart (g := q.openSingle) (by simp [Quotes.toText])
  rw [Quotes.doubleOpens, beq_eq_false_iff_ne.mpr (Ne.symm openSingle.2.1)]
  decide

/-- Double quotes are turned by the characters before them. -/
theorem withDoubles_eq (t : Text) :
    withDoubles q t = turnQuotes q.doubleOpens '"' q.openDouble q.closeDouble true t :=
  turnQuotes_eq (Quotes.doubleOpens_double apart)
    (Quotes.ne_of_apart apart (by simp [Quotes.toText])).2.1 t

/-- A character goes through the pass for single quotes by what stands before it. -/
theorem withSingles_append_cons (s : Text) (c : Char) (t : Text) :
    withSingles q (s ++ c :: t) = withSingles q s ++
      (if c = '\'' then q.glyph '\'' (opensBehind singleOpens true s) else c) ::
        turnQuotes singleOpens '\'' q.openSingle q.closeSingle (singleOpens c) t := by
  rw [withSingles_eq apart, withSingles_eq apart, turnQuotes_append, turnQuotes]
  rfl

/-- A character goes through the pass for double quotes by what stands before it. -/
theorem withDoubles_append_cons (s : Text) (c : Char) (t : Text) :
    withDoubles q (s ++ c :: t) = withDoubles q s ++
      (if c = '"' then q.glyph '"' (opensBehind q.doubleOpens true s) else c) ::
        turnQuotes q.doubleOpens '"' q.openDouble q.closeDouble (q.doubleOpens c) t := by
  rw [withDoubles_eq apart, withDoubles_eq apart, turnQuotes_append, turnQuotes]
  rfl

/-- **A quote cuts a text**: what stands before it becomes what it becomes alone, the quote becomes
a glyph by the end of that, and what stands after it goes on from the glyph. -/
theorem smarten_append_quote {quote : Char} (straight : quote = '\'' ∨ quote = '"')
    (before after : Text) :
    smarten q (before ++ quote :: after) =
      smarten q before ++ q.glyph quote (q.opensAt quote before) ::
        smartenFrom q (singleOpens quote)
          (quote == '\'' && q.doubleOpens (q.glyph quote (q.opensAt quote before))) after := by
  have member := q.glyph_mem quote (q.opensAt quote before)
  obtain ⟨-, double, dot⟩ := Quotes.ne_of_apart apart member
  have dashes : withDashes (before ++ quote :: after) =
      withDashes before ++ quote :: withDashes after :=
    withDashes_append_cons (by rcases straight with rfl | rfl <;> decide) before after
  have ellipses (s t : Text) :
      replace "..." "…" (s ++ q.glyph quote (q.opensAt quote before) :: t) =
        replace "..." "…" s ++ q.glyph quote (q.opensAt quote before) :: replace "..." "…" t :=
    replace_append_cons (by decide) (by simpa using dot) s t
  rw [smarten_eq, smarten_eq, dashes, withSingles_append_cons apart, withDoubles_append_cons apart]
  rcases straight with rfl | rfl
  · have state : opensBehind singleOpens true (withDashes before) = q.opensAt '\'' before := rfl
    rw [if_pos rfl, state, if_neg double]
    exact ellipses _ _
  · have state : opensBehind q.doubleOpens true (withSingles q (withDashes before)) =
        q.opensAt '"' before := rfl
    have kept : '"' ≠ '\'' := by decide
    rw [if_neg kept, if_pos rfl, state, Quotes.doubleOpens_double apart]
    exact ellipses _ _

end Apart

/-! ## English quotes -/

/-- Hyphen, en dash and em dash. -/
def isDash (c : Char) : Bool := c == '-' || c == '–' || c == '—'

/-- Whether a straight quote is to open behind a text: at its start, after a blank, a dash, a slash
or an opening bracket, a single quote after a double one, and a double quote after a single one
that has opened itself. -/
def mayOpen (quote : Char) (before : Text) : Bool :=
  match before.getLast? with
  | none => true
  | some c =>
    isBlank c || isDash c || c == '/' || c == '(' || c == '[' || c == '{' ||
      if quote = '"' then c == '\'' && (smarten .standard before).getLast? == some '‘'
      else c == '"'

/-- Whether a text ends in an en dash, as such or in hyphens of which two are left over. -/
def endsInEnDash (t : Text) : Bool := t.getLast? == some '–' || hyphensAtEnd t % 3 == 2

/-- A text that ends in another character has no hyphens at its end. -/
theorem hyphensAtEnd_concat {c : Char} (other : c ≠ '-') (s : Text) :
    hyphensAtEnd (s ++ [c]) = 0 := by
  rw [hyphensAtEnd, List.rtakeWhile_concat_neg _ _ _ (by simpa using other)]
  rfl

/-- A text that ends in a hyphen has hyphens at its end. -/
theorem hyphensAtEnd_concat_hyphen (s : Text) :
    hyphensAtEnd (s ++ ['-']) = hyphensAtEnd s + 1 := by
  rw [hyphensAtEnd, List.rtakeWhile_concat_pos _ _ _ (by decide), List.length_append]
  rfl

/-- Behind a text with its dashes set, quotes open as behind its last character, but for en dashes,
if they open after hyphens and em dashes and not after en dashes. -/
theorem opensBehind_withDashes {before : Char → Bool} (hyphen : before '-' = true)
    (em : before '—' = true) (en : before '–' = false) (s : Text) (c : Char) :
    opensBehind before true (withDashes (s ++ [c])) =
      ((before c || isDash c) && !endsInEnDash (s ++ [c])) := by
  unfold opensBehind endsInEnDash
  rw [getLast?_withDashes, List.getLast?_concat]
  by_cases same : c = '-'
  · subst same
    rw [hyphensAtEnd_concat_hyphen, if_neg (Nat.succ_ne_zero _)]
    have left : (hyphensAtEnd s + 1) % 3 = 0 ∨ (hyphensAtEnd s + 1) % 3 = 1 ∨
        (hyphensAtEnd s + 1) % 3 = 2 := by omega
    rcases left with left | left | left <;> simp [left, lastDash, hyphen, em, en, isDash]
  · rw [hyphensAtEnd_concat same, if_pos rfl]
    by_cases dash : c = '–'
    · simp [dash, en]
    · by_cases long : c = '—'
      · simp [long, em]
      · simp [isDash, beq_false_of_ne same, beq_false_of_ne dash, beq_false_of_ne long]

/-- No glyph of English typography is straight punctuation. -/
theorem Quotes.standard_apart : ∀ c ∈ ("-'\"." : Text), c ∉ Quotes.standard.toText :=
  forall_mem_of_all (by decide)

/-- What may stand before a quote that opens, besides a quote. -/
theorem mayOpen_concat (quote : Char) (s : Text) (c : Char) :
    mayOpen quote (s ++ [c]) = (opensAfter c || isDash c ||
      if quote = '"' then c == '\'' && (smarten .standard (s ++ [c])).getLast? == some '‘'
      else c == '"') := by
  have classes : (isBlank c || isDash c || c == '/' || c == '(' || c == '[' || c == '{') =
      (opensAfter c || isDash c) := by
    rw [Bool.eq_iff_iff]
    simp only [opensAfter, isDash, Bool.or_eq_true]
    tauto
  unfold mayOpen
  rw [List.getLast?_concat]
  exact congrArg (· || _) classes

/-- Set dashes are no single quotes. -/
theorem getLast?_withDashes_ne {t : Text} (other : t.getLast? ≠ some '\'') :
    (withDashes t).getLast? ≠ some '\'' := by
  have dash (left : Nat) : some (lastDash left) ≠ some '\'' := by
    unfold lastDash
    split <;> decide
  rw [getLast?_withDashes]
  split
  · exact other
  · exact dash _

/-- A text ends as before when its single quotes are set, unless it ends in one. -/
theorem getLast?_withSingles {t : Text} (other : t.getLast? ≠ some '\'') :
    (withSingles .standard t).getLast? = t.getLast? := by
  rcases List.eq_nil_or_concat' t with rfl | ⟨s, c, rfl⟩
  · rfl
  · rw [List.getLast?_concat] at other ⊢
    rw [withSingles_append_cons Quotes.standard_apart,
      if_neg fun same : c = '\'' => other (congrArg some same), turnQuotes, List.getLast?_concat]

/-- Behind a single quote a double quote opens as the glyph says that is put for the single one. -/
theorem opensAt_double_concat_single (s : Text) :
    Quotes.standard.opensAt '"' (s ++ ['\'']) =
      ((smarten .standard (s ++ ['\''])).getLast? == some '‘') := by
  let opens := Quotes.standard.opensAt '\'' s
  have alone : smarten .standard (s ++ ['\'']) =
      smarten .standard s ++ [Quotes.standard.glyph '\'' opens] :=
    smarten_append_quote Quotes.standard_apart (.inl rfl) s []
  have turned : withSingles .standard (withDashes (s ++ ['\''])) =
      withSingles .standard (withDashes s) ++ [Quotes.standard.glyph '\'' opens] := by
    rw [withDashes_append_cons (by decide), withSingles_append_cons Quotes.standard_apart,
      if_pos rfl]
    rfl
  rw [Quotes.opensAt, if_pos rfl, opensBehind, turned, alone, List.getLast?_concat,
    List.getLast?_concat]
  cases opens <;> decide

/-- **The passes open the quotes that are to open**, but for those after an en dash. -/
theorem opensAt_standard {quote : Char} (straight : quote = '\'' ∨ quote = '"') {before : Text}
    (free : ∀ c ∈ before, c ∉ Quotes.standard.toText) :
    Quotes.standard.opensAt quote before = (mayOpen quote before && !endsInEnDash before) := by
  rcases List.eq_nil_or_concat' before with rfl | ⟨s, c, rfl⟩
  · rcases straight with rfl | rfl <;> decide
  · have last : c ≠ '‘' := by
      rintro rfl
      exact free '‘' (by simp) (by decide)
    rw [mayOpen_concat]
    rcases straight with rfl | rfl
    · have found : Quotes.standard.opensAt '\'' (s ++ [c]) =
          ((singleOpens c || isDash c) && !endsInEnDash (s ++ [c])) :=
        opensBehind_withDashes (by decide) (by decide) (by decide) s c
      rw [found, singleOpens, Bool.or_right_comm]
      rfl
    · by_cases single : c = '\''
      · subst single
        have plain : opensAfter '\'' = false ∧ isDash '\'' = false := by decide
        rw [opensAt_double_concat_single, endsInEnDash, hyphensAtEnd_concat (by decide), plain.1,
          plain.2, List.getLast?_concat]
        simp
      · have ends : (s ++ [c]).getLast? ≠ some '\'' := by simpa using single
        have found : Quotes.standard.opensAt '"' (s ++ [c]) =
            ((Quotes.standard.doubleOpens c || isDash c) && !endsInEnDash (s ++ [c])) := by
          rw [← opensBehind_withDashes (by decide) (by decide) (by decide) s c, opensBehind,
            ← getLast?_withSingles (getLast?_withDashes_ne ends)]
          rfl
        rw [found, Quotes.doubleOpens, beq_false_of_ne (b := Quotes.standard.openSingle) last,
          beq_false_of_ne single, if_pos rfl, Bool.false_and, Bool.or_false, Bool.or_false]

/-- **Typographic punctuation turns each straight quote by what stands before it**: in a text
without glyphs of its own, a quote that is to open becomes an opening glyph unless it follows an en
dash, and every other quote becomes a closing glyph. -/
theorem smarten_turns_quote {quote : Char} (straight : quote = '\'' ∨ quote = '"') {before : Text}
    (free : ∀ c ∈ before, c ∉ Quotes.standard.toText) (after : Text) :
    smarten .standard before ++
        [Quotes.standard.glyph quote (mayOpen quote before && !endsInEnDash before)] <+:
      smarten .standard (before ++ quote :: after) := by
  rw [smarten_append_quote Quotes.standard_apart straight, opensAt_standard straight free]
  exact ⟨_, List.append_assoc _ _ _⟩

/-- Both quotes open after a dash of three hyphens and a bracket, the second as the first does. -/
theorem smarten_turns_quote_of_nested :
    let before : Text := "a---('"
    (∀ c ∈ before, c ∉ Quotes.standard.toText) ∧
      mayOpen '"' before = true ∧ endsInEnDash before = false ∧
      smarten .standard before ++ ['“'] <+: smarten .standard (before ++ '"' :: "b--'") := by
  intro before
  have free : ∀ c ∈ before, c ∉ Quotes.standard.toText := forall_mem_of_all (by decide)
  exact ⟨free, by decide +kernel, by decide, smarten_turns_quote (.inr rfl) free "b--'"⟩

/-- A quote closes after an en dash, where it is to open. -/
theorem smarten_closes_after_enDash :
    mayOpen '"' "--" = true ∧ smarten .standard ("--" ++ '"' :: "x\"") = "–”x”" := by
  decide +kernel

end MarkdownSite.Text
