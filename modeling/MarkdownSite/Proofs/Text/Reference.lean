import MarkdownSite.Proofs.Text.Basic
import MarkdownSite.Text.Entity

/-!
# Reading character references

How many characters a reader may read plays no part, so a reference is replaced where it stands and
what follows it is read by itself. A name without a semicolon is read up to its longest beginning
that is known; the names that may be written so are short, and longer than what they stand for.
-/

namespace MarkdownSite.Text

/-! ## The table of names -/

/-- The characters that a name stands for in lines of entries. -/
def namedIn? (lines : List Text) (name : Text) : Option Text :=
  lines.findSome? fun line => ((splitOn ';' line).filterMap parseEntity).lookup name

/-- A name is looked up line by line. -/
theorem namedEntity?_eq_namedIn? {lines : List Text}
    (spelled : entityLines = lines.map String.ofList) (name : Text) :
    namedEntity? name = namedIn? lines name := by
  rw [namedEntity?, namedEntities, namedIn?, spelled, List.flatMap_map]
  simp only [String.toList_ofList]
  clear spelled
  induction lines with
  | nil => rfl
  | cons line lines ih =>
    rw [List.flatMap_cons, List.lookup_append, ih, List.findSome?_cons]
    cases ((splitOn ';' line).filterMap parseEntity).lookup name with
    | none => rfl
    | some value => rfl

/-- One more line, spelled out. -/
theorem spelled_cons {line : String} {lines : List String} {spelling : Text} {spellings : List Text}
    (first : line = String.ofList spelling) (others : lines = spellings.map String.ofList) :
    line :: lines = (spelling :: spellings).map String.ofList := by
  rw [first, others, List.map_cons]

/-- Whether a character comes after the space, and opens neither a percent escape nor a fragment. -/
def isQuiet (c : Char) : Bool := 32 < c.toNat && c != '%' && c != '#'

/-- Whether an entry, if its name may be written without a semicolon, has a name of two to 32
characters with no equals sign that is not shorter than what it stands for. -/
def isShortForm (entry : Text × Text) : Bool :=
  List.contains entry.1 ';' ||
    (2 ≤ entry.1.length && entry.1.length ≤ 32 && !List.contains entry.1 '='
      && entry.2.length ≤ entry.1.length && entry.2.all isQuiet)

/-- The table has lines that can be decided about: they have the names that escapes use, and one that
needs no semicolon, and their entries are short forms. -/
theorem entityLines_spelled : ∃ lines : List Text, entityLines = lines.map String.ofList ∧
    (namedIn? lines ['a', 'm', 'p', ';'] = some ['&'] ∧
      namedIn? lines ['l', 't', ';'] = some ['<'] ∧
      namedIn? lines ['g', 't', ';'] = some ['>'] ∧
      namedIn? lines ['q', 'u', 'o', 't', ';'] = some ['"']) ∧
    namedIn? lines ['c', 'o', 'p', 'y'] = some ['©'] ∧
    (lines.all fun line => ((splitOn ';' line).filterMap parseEntity).all isShortForm) = true := by
  -- the lines are spelled out as characters first, for the decision does not get through strings
  apply Exists.intro
  constructor
  · unfold entityLines
    dsimp only
    repeat apply spelled_cons rfl
    exact List.map_nil.symm
  · decide +kernel

/-- The names that escapes use are known. -/
theorem namedEntity?_escapes :
    namedEntity? ['a', 'm', 'p', ';'] = some ['&'] ∧
      namedEntity? ['l', 't', ';'] = some ['<'] ∧
      namedEntity? ['g', 't', ';'] = some ['>'] ∧
      namedEntity? ['q', 'u', 'o', 't', ';'] = some ['"'] := by
  obtain ⟨lines, spelled, found, -⟩ := entityLines_spelled
  simp only [namedEntity?_eq_namedIn? spelled]
  exact found

/-- The sign of copyright needs no semicolon. -/
theorem namedEntity?_copy : namedEntity? ['c', 'o', 'p', 'y'] = some ['©'] := by
  obtain ⟨lines, spelled, -, found, -⟩ := entityLines_spelled
  rw [namedEntity?_eq_namedIn? spelled]
  exact found

/-- A name that is known without a semicolon is short, and longer than what it stands for. -/
theorem namedEntity?_open {name value : Text} (known : namedEntity? name = some value)
    (unclosed : ';' ∉ name) : 2 ≤ name.length ∧ name.length ≤ 32 ∧ '=' ∉ name ∧
      value.length ≤ name.length ∧ ∀ c ∈ value, isQuiet c = true := by
  obtain ⟨lines, spelled, -, -, checked⟩ := entityLines_spelled
  rw [namedEntity?_eq_namedIn? spelled] at known
  obtain ⟨line, listed, found⟩ := List.exists_of_findSome?_eq_some known
  obtain ⟨before, after, entries, -⟩ := List.lookup_eq_some_iff.mp found
  have entry : isShortForm (name, value) = true :=
    List.all_eq_true.mp (List.all_eq_true.mp checked line listed) (name, value) (by simp [entries])
  simpa [isShortForm, unclosed, and_assoc] using entry

/-! ## Reading a reference -/

namespace ReferenceForm

variable (form : ReferenceForm)

/-- A name with its semicolon is read as what it stands for. -/
theorem read?_name {value : Text} (name rest : Text) (nonempty : name ≠ [])
    (letters : name.all isEntityNameChar = true) (short : name.length ≤ 32)
    (known : namedEntity? (name ++ [';']) = some value) :
    form.read? (name ++ ';' :: rest) = some (value, rest) := by
  have run : (name ++ ';' :: rest).takeWhile isEntityNameChar = name :=
    takeWhile_append_of_head (List.all_eq_true.mp letters) (by simp [isEntityNameChar])
  unfold read?
  split
  · rename_i x other starts
    -- no name starts with a number sign
    cases name with
    | nil => exact absurd rfl nonempty
    | cons c name =>
      rw [List.cons_append, List.cons.injEq] at starts
      rw [starts.1] at letters
      exact absurd (List.all_eq_true.mp letters '#' List.mem_cons_self) (by decide)
  · simp only [run, List.take_of_length_le short, List.isEmpty_iff, nonempty, ↓reduceIte,
      List.drop_left, close, decodeName, known, Option.bind_eq_bind, Option.bind_some]
    rfl

variable {form}

/-- What follows the end of a reference ends the text. -/
theorem suffix_of_close {given : Bool × Text → Text} {t value rest : Text}
    (read : ((form.close t).bind fun ends => pure (given ends, ends.2)) = some (value, rest)) :
    rest <:+ t := by
  obtain ⟨ends, closes, same⟩ := Option.bind_eq_some_iff.mp read
  cases same
  unfold close at closes
  split at closes
  · cases closes
    exact List.suffix_cons _ _
  · split at closes
    · cases closes
    · cases closes
      exact List.suffix_refl _

/-- What follows a reference by number ends the text. -/
theorem suffix_of_number? {base : Nat} {limit : Option Nat} {t value rest : Text}
    (read : form.number? base limit t = some (value, rest)) : rest <:+ t := by
  unfold number? at read
  obtain ⟨n, -, read⟩ := Option.bind_eq_some_iff.mp read
  dsimp only at read
  split at read
  · split at read
    · cases read
    · exact (suffix_of_close read).trans (List.drop_suffix _ _)
  · exact (suffix_of_close read).trans (List.drop_suffix _ _)

/-- What follows a reference ends the text. -/
theorem suffix_of_read? {t value rest : Text} (read : form.read? t = some (value, rest)) :
    rest <:+ t := by
  unfold read? at read
  split at read
  · split at read
    · exact (suffix_of_number? read).trans
        ((List.suffix_cons _ _).trans (List.suffix_cons _ _))
    · exact (suffix_of_number? read).trans (List.suffix_cons _ _)
  · dsimp only at read
    split at read
    · cases read
    · exact (suffix_of_close read).trans (List.drop_suffix _ _)

/-! ## Reading on -/

/-- A reader that may read as many characters as there are reads as it does if it may read more. -/
theorem decodeFrom_eq {t : Text} {fuel more : Nat} (enough : t.length ≤ fuel)
    (also : t.length ≤ more) : form.decodeFrom fuel t = form.decodeFrom more t := by
  induction fuel generalizing t more with
  | zero =>
    rw [List.eq_nil_of_length_eq_zero (Nat.le_zero.mp enough)]
    cases more <;> rfl
  | succ fuel ih =>
    cases t with
    | nil => cases more <;> rfl
    | cons c t =>
      rw [List.length_cons] at enough also
      cases more with
      | zero => omega
      | succ more =>
        have same : form.decodeFrom fuel t = form.decodeFrom more t := ih (by omega) (by omega)
        rw [decodeFrom, decodeFrom, same]
        split
        · split
          · rename_i value rest read
            have shorter := (suffix_of_read? read).length_le
            have later : form.decodeFrom fuel rest = form.decodeFrom more rest :=
              ih (by omega) (by omega)
            rw [later]
          · rfl
        · rfl

variable (form)

/-- A reference is replaced where it stands. -/
theorem decode_reference {t rest : Text} (value : Text)
    (read : form.read? t = some (value, rest)) :
    form.decode ('&' :: t) = value ++ form.decode rest := by
  have shorter := (suffix_of_read? read).length_le
  have later : form.decodeFrom t.length rest = form.decode rest :=
    decodeFrom_eq shorter (Nat.le_refl _)
  rw [decode, List.length_cons, decodeFrom, if_pos rfl, read]
  exact congrArg (value ++ ·) later

/-- A character other than the ampersand stays. -/
theorem decode_cons {c : Char} (other : c ≠ '&') (t : Text) :
    form.decode (c :: t) = c :: form.decode t := by
  rw [decode, List.length_cons, decodeFrom, if_neg other]
  rfl

/-- What has no ampersand stays, whatever follows it. -/
theorem decode_append {before : Text} (plain : '&' ∉ before) (t : Text) :
    form.decode (before ++ t) = before ++ form.decode t := by
  induction before with
  | nil => rfl
  | cons c before ih =>
    rw [List.mem_cons, not_or] at plain
    rw [List.cons_append, form.decode_cons (Ne.symm plain.1), ih plain.2]
    rfl

/-- A text without ampersands has no reference. -/
theorem decode_of_not_mem {t : Text} (plain : '&' ∉ t) : form.decode t = t := by
  have whole := form.decode_append plain []
  rwa [List.append_nil, show form.decode [] = [] from rfl, List.append_nil] at whole

end ReferenceForm

/-! ## Names without a semicolon -/

/-- The longest beginning of a name that is known, of those with a given length at most, is read,
or none is known. -/
theorem longestEntity?_cases (name : Text) (length : Nat) :
    (longestEntity? name length = none ∧
      ∀ n, 2 ≤ n → n ≤ length → namedEntity? (name.take n) = none) ∨
    ∃ n value, namedEntity? (name.take n) = some value ∧
      longestEntity? name length = some (value, name.drop n) := by
  induction length using longestEntity?.induct name with
  | case1 => exact .inl ⟨rfl, fun n least most => by omega⟩
  | case2 => exact .inl ⟨rfl, fun n least most => by omega⟩
  | case3 n value known => exact .inr ⟨n + 2, value, known, by rw [longestEntity?, known]⟩
  | case4 n unknown ih =>
    rw [longestEntity?, unknown]
    refine ih.imp_left fun shorter => ⟨shorter.1, fun m least most => ?_⟩
    by_cases whole : m = n + 2
    · rw [whole, unknown]
    · exact shorter.2 m least (by omega)

/-- What a name without a semicolon is read as, of which no more than 32 characters are looked
at. -/
def decodeOpen (name : Text) : Text := decodeName (name.take 32) ++ name.drop 32

/-- A name without a semicolon stays if none of its beginnings is known; or else one of them is
replaced. -/
theorem decodeOpen_cases {word : Text} (unclosed : ';' ∉ word) :
    ((∀ name, name <+: word → namedEntity? name = none) ∧ decodeOpen word = '&' :: word) ∨
      ∃ name value rest, word = name ++ rest ∧ namedEntity? name = some value ∧
        decodeOpen word = value ++ rest := by
  have whole : word = word.take 32 ++ word.drop 32 := (List.take_append_drop 32 word).symm
  unfold decodeOpen decodeName
  cases known : namedEntity? (word.take 32) with
  | some value => exact .inr ⟨word.take 32, value, word.drop 32, whole, known, rfl⟩
  | none =>
    dsimp only
    rcases longestEntity?_cases (word.take 32) ((word.take 32).length - 1) with
      ⟨none, unknown⟩ | ⟨n, value, found, longest⟩
    · refine .inl ⟨fun name begins => ?_, ?_⟩
      · cases named : namedEntity? name with
        | none => rfl
        | some value =>
          obtain ⟨least, most, -⟩ := namedEntity?_open named (unclosed ∘ (begins.mem ·))
          have front : name = (word.take 32).take name.length := by
            rw [List.take_take, Nat.min_eq_left most]
            exact List.prefix_iff_eq_take.mp begins
          have bound := congrArg List.length front
          rw [List.length_take] at bound
          by_cases complete : name.length = (word.take 32).length
          · rw [complete, List.take_length] at front
            rw [front, known] at named
            cases named
          · rw [front, unknown name.length least (by omega)] at named
            cases named
      · rw [none]
        exact congrArg (List.cons '&') whole.symm
    · refine .inr ⟨(word.take 32).take n, value, (word.take 32).drop n ++ word.drop 32, ?_, found,
        ?_⟩
      · rw [← List.append_assoc, List.take_append_drop]
        exact whole
      · rw [longest, List.append_assoc]

/-- Where no semicolon follows, a reference that a browser reads ends without one. -/
theorem close_of_head {t : Text} (other : t.head? ≠ some ';') :
    browserReferences.close t = some (false, t) := by
  unfold ReferenceForm.close
  split
  · exact absurd rfl other
  · rfl

/-- A name without a semicolon is read where it stands, up to an ampersand or the end. -/
theorem decodeEntities_open {word rest : Text} (present : word ≠ [])
    (letters : ∀ c ∈ word, isEntityNameChar c = true) (ends : ∀ c ∈ rest.head?, c = '&') :
    decodeEntities ('&' :: (word ++ rest)) = decodeOpen word ++ decodeEntities rest := by
  have apart {c : Char} (mark : isEntityNameChar c = false) : c ∉ word := by
    intro member
    rw [letters c member] at mark
    cases mark
  have tail {c : Char} (member : c ∈ word.drop 32) : c ∈ word := (List.drop_suffix _ _).mem member
  have run : (word ++ rest).takeWhile isEntityNameChar = word := by
    refine takeWhile_append_of_head letters fun c first => ?_
    rw [ends c first]
    rfl
  have left : (word ++ rest).drop (word.take 32).length = word.drop 32 ++ rest := by
    calc (word ++ rest).drop (word.take 32).length
        = (word.take 32 ++ (word.drop 32 ++ rest)).drop (word.take 32).length := by
          rw [← List.append_assoc, List.take_append_drop]
      _ = word.drop 32 ++ rest := List.drop_left
  have unclosed : (word.drop 32 ++ rest).head? ≠ some ';' := by
    cases more : word.drop 32 with
    | nil => exact fun first => absurd (ends ';' first) (by decide)
    | cons c more =>
      rintro first
      cases first
      exact apart rfl (tail (by rw [more]; exact List.mem_cons_self))
  have read : browserReferences.read? (word ++ rest) =
      some (decodeName (word.take 32), word.drop 32 ++ rest) := by
    unfold ReferenceForm.read?
    split
    · rename_i starts
      cases word with
      | nil => exact absurd rfl present
      | cons c word =>
        rw [(List.cons.inj starts).1] at apart
        exact absurd List.mem_cons_self (apart (c := '#') rfl)
    · have looked : (word.take 32).isEmpty = false := by simpa using present
      simp only [run, looked, left, close_of_head unclosed]
      rfl
  unfold decodeEntities decodeOpen
  rw [browserReferences.decode_reference _ read,
    browserReferences.decode_append fun member => apart rfl (tail member), List.append_assoc]

end MarkdownSite.Text
