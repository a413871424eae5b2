import MarkdownSite.Proofs.Text.Escape
import MarkdownSite.Proofs.Url.Hidden

/-!
# References whose numbers are too long

A URL is refused if a reference in it has a decimal number that is too long to be read. No reference
in an escaped text has one, and none in a text without semicolons that is read as itself. A URL that
is not refused is encoded part by part, and one that cannot be encoded stays.
-/

namespace MarkdownSite.Url

open Text

/-! ## Texts that are not refused -/

/-- What has no ampersand is not refused, whatever follows it. -/
theorem checkNumbers_append {before : Text} (plain : '&' ∉ before) (t : Text) :
    checkNumbers (before ++ t) = checkNumbers t := by
  induction before with
  | nil => rfl
  | cons c before ih =>
    obtain ⟨other, later⟩ := not_or.mp (List.mem_cons.not.mp plain)
    rw [List.cons_append, checkNumbers, if_neg (Ne.symm other)]
    exact ih later

/-- A text without ampersands is not refused. -/
theorem checkNumbers_of_not_mem {t : Text} (plain : '&' ∉ t) : checkNumbers t = .ok () := by
  have whole := checkNumbers_append plain []
  rwa [List.append_nil] at whole

/-- A reference whose number is not too long is not refused. -/
theorem checkNumbers_reference {t : Text} (short : numberDigits t ≤ mostDigits) :
    checkNumbers ('&' :: t) = checkNumbers t := by
  rw [checkNumbers, if_pos rfl]
  exact if_pos short

/-- A name is no number. -/
theorem numberDigits_of_name {t : Text} (named : ∀ c rest, t = '#' :: c :: rest → False) :
    numberDigits t = 0 := by
  unfold numberDigits
  split
  · rename_i s
    cases s with
    | nil => rfl
    | cons c s => exact (named c s rfl).elim
  · rfl

/-- A text without number signs is not refused. -/
theorem checkNumbers_of_unnumbered {t : Text} (absent : '#' ∉ t) : checkNumbers t = .ok () := by
  induction t with
  | nil => rfl
  | cons c t ih =>
    obtain ⟨-, later⟩ := not_or.mp (List.mem_cons.not.mp absent)
    have unnumbered : numberDigits t = 0 := numberDigits_of_name fun d rest starts =>
      later (by rw [starts]; exact List.mem_cons_self)
    have none : (if c = '&' then numberDigits t else 0) ≤ mostDigits := by
      rw [unnumbered, ite_self]
      exact Nat.zero_le _
    rw [checkNumbers, if_pos none]
    exact ih later

/-- A reference that a character is escaped with is not refused. -/
theorem checkNumbers_escapeAttributeChar (c : Char) (rest : Text) :
    checkNumbers (escapeAttributeChar c ++ rest) = checkNumbers rest := by
  have reference (name : Text) (noNumber : ∀ t, numberDigits (name ++ t) = 0) (plain : '&' ∉ name) :
      checkNumbers ('&' :: name ++ rest) = checkNumbers rest := by
    rw [List.cons_append, checkNumbers_reference (by rw [noNumber]; exact Nat.zero_le _),
      checkNumbers_append plain]
  unfold escapeAttributeChar escapeMarkupChar escapeContentChar
  split
  · exact reference "#x27;" (fun _ => rfl) (by decide)
  split
  · exact reference "quot;" (fun _ => rfl) (by decide)
  split
  · exact reference "amp;" (fun _ => rfl) (by decide)
  split
  · exact reference "lt;" (fun _ => rfl) (by decide)
  split
  · exact reference "gt;" (fun _ => rfl) (by decide)
  · rename_i other _ _
    exact checkNumbers_append (by simpa using Ne.symm other) rest

/-- A text that is escaped for an attribute is not refused. -/
theorem checkNumbers_escapeAttribute (t : Text) : checkNumbers (escapeAttribute t) = .ok () := by
  induction t with
  | nil => rfl
  | cons c t ih =>
    rw [escapeAttribute, List.flatMap_cons, checkNumbers_escapeAttributeChar]
    exact ih

/-- A text is refused for the first reference whose number is too long. -/
theorem checkNumbers_of_digits {before digits rest : Text} (plain : '&' ∉ before)
    (decimal : ∀ c ∈ digits, c.isDigit = true) (ends : ∀ c ∈ rest.head?, c.isDigit = false)
    (long : mostDigits < digits.length) :
    checkNumbers (before ++ '&' :: '#' :: (digits ++ rest)) =
      .error (.longNumber digits.length) := by
  have count : numberDigits ('#' :: (digits ++ rest)) = digits.length := by
    rw [numberDigits, takeWhile_append_of_head decimal ends]
  rw [checkNumbers_append plain, checkNumbers, if_pos rfl, count]
  exact if_neg (Nat.not_le_of_gt long)

/-! ## Texts that are read as themselves -/

/-- What a name without a semicolon is read as is not longer than the reference. -/
theorem length_decodeName_le {name : Text} (unclosed : ';' ∉ name) (short : name.length ≤ 32) :
    (decodeName name).length ≤ name.length + 1 := by
  have own : decodeOpen name = decodeName name := by
    rw [decodeOpen, List.take_of_length_le short, List.drop_of_length_le short, List.append_nil]
  rw [← own]
  rcases decodeOpen_cases unclosed with ⟨-, stays⟩ | ⟨start, value, rest, whole, known, replaced⟩
  · rw [stays, List.length_cons]
  · have most := (namedEntity?_open known fun member =>
      unclosed (by rw [whole]; exact List.mem_append_left _ member)).2.2.2.1
    rw [replaced, whole, List.length_append, List.length_append]
    omega

/-- Digits write a number. -/
theorem exists_toNatBase? {base : Nat} {t : Text} (present : t ≠ [])
    (digits : ∀ c ∈ t, isDigitOf base c = true) : ∃ n, toNatBase? base t = some n := by
  have further (n : Nat) : ∃ m, t.foldlM (fun n c => (hexDigit? c).bind fun d =>
      if d < base then some (n * base + d) else none) n = some m := by
    clear present
    induction t generalizing n with
    | nil => exact ⟨n, rfl⟩
    | cons c t ih =>
      obtain ⟨first, later⟩ := List.forall_mem_cons.mp digits
      unfold isDigitOf at first
      cases value : hexDigit? c with
      | none => simp [value] at first
      | some d =>
        rw [value] at first
        rw [List.foldlM_cons, value, Option.bind_some, if_pos (of_decide_eq_true first)]
        exact ih later (n * base + d)
  unfold toNatBase?
  rw [List.isEmpty_eq_false_iff.mpr present, if_neg Bool.false_ne_true]
  exact further 0

/-- What follows an ampersand is read where a decimal number starts. -/
theorem numberDigits_of_unread {t : Text} (unread : browserReferences.read? t = none) :
    numberDigits t = 0 := by
  unfold numberDigits
  split
  · rename_i t
    cases t with
    | nil => rfl
    | cons c t =>
      by_contra digits
      have first : c.isDigit = true := by
        by_contra other
        exact digits (by rw [List.takeWhile_cons_of_neg other, List.length_nil])
      have decimal : ¬(c = 'x' ∨ c = 'X') := by rintro (rfl | rfl) <;> cases first
      obtain ⟨value, small⟩ := hexDigit?_of_isDigit first
      have digit : isDigitOf 10 c = true := by simp [isDigitOf, value, small]
      have present : (c :: t).takeWhile (isDigitOf 10) ≠ [] := by
        rw [List.takeWhile_cons_of_pos digit]
        exact List.cons_ne_nil _ _
      obtain ⟨n, written⟩ := exists_toNatBase? present fun d member =>
        List.all_eq_true.mp List.all_takeWhile d member
      change (if c = 'x' ∨ c = 'X' then _ else browserReferences.number? 10 none (c :: t)) = none
        at unread
      rw [if_neg decimal, number?_of_unlimited, written, Option.bind_some, Option.map_eq_none_iff]
        at unread
      unfold ReferenceForm.close at unread
      split at unread
      · cases unread
      · cases unread
  · rfl

/-- An ampersand that starts no reference stays. -/
theorem decodeEntities_unread {t : Text} (unread : browserReferences.read? t = none) :
    decodeEntities ('&' :: t) = '&' :: decodeEntities t := by
  rw [decodeEntities, ReferenceForm.decode, List.length_cons, ReferenceForm.decodeFrom, if_pos rfl,
    unread]
  rfl

/-- A reference without a semicolon is read as less than it is written with, or it has a name and is
read as no more. -/
theorem read?_of_unclosed_cases {t value rest : Text} (unclosed : ';' ∉ t)
    (read : browserReferences.read? t = some (value, rest)) :
    value.length + rest.length < t.length + 1 ∨
      ∃ name, t = name ++ rest ∧ '&' ∉ name ∧ numberDigits t = 0 ∧
        value.length ≤ name.length + 1 := by
  have numbered {base : Nat} {s : Text} (behind : s.length < t.length)
      (number : browserReferences.number? base none s = some (value, rest)) :
      value.length + rest.length < t.length + 1 := by
    have shorter := (ReferenceForm.suffix_of_number? number).length_le
    rw [number?_of_unlimited] at number
    obtain ⟨n, -, closes⟩ := Option.bind_eq_some_iff.mp number
    obtain ⟨ending, -, same⟩ := Option.map_eq_some_iff.mp closes
    have most := length_numberedEntity_le n
    rw [← (Prod.mk.inj same).1]
    omega
  unfold ReferenceForm.read? at read
  split at read
  · split at read
    · exact .inl (numbered (Nat.lt_succ_of_lt (Nat.lt_succ_self _)) read)
    · exact .inl (numbered (Nat.lt_succ_self _) read)
  · rename_i unnumbered
    right
    dsimp only at read
    split at read
    · cases read
    · let name := (t.takeWhile isEntityNameChar).take 32
      have begins : name <+: t := (List.take_prefix _ _).trans (List.takeWhile_prefix _)
      have letters : ∀ c ∈ name, isEntityNameChar c = true := fun c member =>
        List.all_eq_true.mp List.all_takeWhile c (List.mem_of_mem_take member)
      have whole : name ++ t.drop name.length = t := List.prefix_iff_eq_append.mp begins
      have closes : browserReferences.close (t.drop name.length) =
          some (false, t.drop name.length) :=
        close_of_head fun first => unclosed (List.mem_of_mem_drop (List.mem_of_mem_head? first))
      change ((browserReferences.close (t.drop name.length)).bind _) = _ at read
      rw [closes, Option.bind_some] at read
      cases read
      refine ⟨name, whole.symm, fun member => ?_, numberDigits_of_name unnumbered, ?_⟩
      · exact absurd (letters '&' member) (by decide)
      · exact length_decodeName_le (unclosed ∘ (begins.mem ·)) (List.length_take_le _ _)

/-- A text without semicolons is not read as a longer one, and as a shorter one if it is refused. -/
theorem length_decodeEntities_of_unclosed {t : Text} (unclosed : ';' ∉ t) :
    (decodeEntities t).length ≤ t.length ∧
      ((decodeEntities t).length = t.length → checkNumbers t = .ok ()) := by
  induction length : t.length using Nat.strongRecOn generalizing t with
  | ind length ih =>
    cases t with
    | nil => exact ⟨Nat.zero_le _, fun _ => rfl⟩
    | cons c t =>
      obtain ⟨-, later⟩ := not_or.mp (List.mem_cons.not.mp unclosed)
      rw [List.length_cons] at length
      by_cases ampersand : c = '&'
      · subst ampersand
        cases read : browserReferences.read? t with
        | none =>
          obtain ⟨most, fine⟩ := ih t.length (by omega) later rfl
          have none : numberDigits t ≤ mostDigits := by
            rw [numberDigits_of_unread read]
            exact Nat.zero_le _
          rw [decodeEntities_unread read, List.length_cons, checkNumbers_reference none]
          exact ⟨by omega, fun same => fine (by omega)⟩
        | some given =>
          obtain ⟨value, rest⟩ := given
          have shorter := (ReferenceForm.suffix_of_read? read).length_le
          have unclosedRest := later ∘ ((ReferenceForm.suffix_of_read? read).mem ·)
          obtain ⟨most, fine⟩ := ih rest.length (by omega) unclosedRest rfl
          rw [decodeEntities, browserReferences.decode_reference value read, List.length_append,
            ← decodeEntities]
          rcases read?_of_unclosed_cases later read with less | ⟨name, rfl, plain, none, least⟩
          · exact ⟨by omega, fun same => by omega⟩
          · rw [List.length_append] at length
            refine ⟨by omega, fun same => ?_⟩
            rw [checkNumbers_reference (by rw [none]; exact Nat.zero_le _),
              checkNumbers_append plain]
            exact fine (by omega)
      · obtain ⟨most, fine⟩ := ih t.length (by omega) later rfl
        have plain : '&' ∉ [c] := by simpa using Ne.symm ampersand
        have same : checkNumbers (c :: t) = checkNumbers t := checkNumbers_append plain t
        rw [decodeEntities, browserReferences.decode_cons ampersand, List.length_cons, same]
        exact ⟨Nat.succ_le_succ_iff.mpr most |>.trans (by omega), fun equal => fine (by
          rw [decodeEntities]; omega)⟩

/-- **A text without semicolons that is read as itself is not refused.** -/
theorem checkNumbers_of_decodeEntities_eq {t : Text} (unclosed : ';' ∉ t)
    (same : decodeEntities t = t) : checkNumbers t = .ok () :=
  (length_decodeEntities_of_unclosed unclosed).2 (by rw [same])

/-! ## Encoding -/

/-- A URL that is not refused is encoded part by part and escaped. -/
theorem encode?_eq {url : Text} (readable : checkNumbers url = .ok ()) :
    encode? url = (encodeParts url).map escapeAttribute := by
  unfold encode?
  rw [readable]
  cases encodeParts url with
  | error e => rfl
  | ok encoded => rfl

/-- A URL is encoded part by part and escaped, or it stays. -/
theorem encode?_cases (url : Text) :
    (∃ encoded, checkNumbers url = .ok () ∧ encodeParts url = .ok encoded ∧
        encode? url = .ok (escapeAttribute encoded) ∧ encode url = escapeAttribute encoded) ∨
      ∃ e, encode? url = .error e ∧ encode url = url := by
  unfold encode
  cases readable : checkNumbers url with
  | error e =>
    have refused : encode? url = .error e := by
      unfold encode?
      rw [readable]
      rfl
    exact .inr ⟨e, refused, by rw [refused]⟩
  | ok _ =>
    rw [encode?_eq readable]
    cases encodeParts url with
    | error e => exact .inr ⟨e, rfl, rfl⟩
    | ok encoded => exact .inl ⟨encoded, rfl, rfl, rfl, rfl⟩

end MarkdownSite.Url
