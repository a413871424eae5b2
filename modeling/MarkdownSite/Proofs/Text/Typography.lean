import Mathlib.Data.List.Infix
import Mathlib.Logic.Relation
import MarkdownSite.Proofs.Text.Rewritten
import MarkdownSite.Text.Typography

/-!
# What typographic punctuation keeps

Every pass puts one glyph for a piece of straight punctuation. Where no two pieces share a glyph,
the straight text can be read off the glyphs again. Where no glyph is straight punctuation itself,
none is left after the passes that could be replaced, so that they change nothing a second time.
-/

namespace MarkdownSite.Text

/-! ## The passes -/

/-- The text with dashes for hyphens. -/
def withDashes (t : Text) : Text := replace "--" "–" (replace "---" "—" t)

/-- The text with glyphs for single quotes. -/
def withSingles (q : Quotes) (t : Text) : Text :=
  replaceChar '\'' q.closeSingle
    (openQuotes (fun c => opensAfter c || c == '"') '\'' q.openSingle t)

/-- The text with glyphs for double quotes. -/
def withDoubles (q : Quotes) (t : Text) : Text :=
  replaceChar '"' q.closeDouble
    (openQuotes (fun c => opensAfter c || c == q.openSingle) '"' q.openDouble t)

/-- Typographic punctuation sets dashes first, then quotes, and last the ellipses. -/
theorem smarten_eq (q : Quotes) (t : Text) :
    smarten q t = replace "..." "…" (withDoubles q (withSingles q (withDashes t))) := rfl

/-- The glyphs that are put for pieces of straight punctuation. -/
inductive Quotes.Sets (q : Quotes) : Text → Text → Prop
  | emDash : q.Sets "---" "—"
  | enDash : q.Sets "--" "–"
  | openSingle : q.Sets "'" [q.openSingle]
  | closeSingle : q.Sets "'" [q.closeSingle]
  | openDouble : q.Sets "\"" [q.openDouble]
  | closeDouble : q.Sets "\"" [q.closeDouble]
  | ellipsis : q.Sets "..." "…"

/-- A text becomes another by passes each of which puts glyphs for straight punctuation. -/
def Smartened (q : Quotes) : Text → Text → Prop :=
  Relation.ReflTransGen (Rewritten q.Sets)

/-- A pass that puts one glyph for one piece of punctuation is one of the passes. -/
theorem Smartened.pass {q : Quotes} {a b t r : Text} (sets : q.Sets a b)
    (rewritten : Rewritten (Becomes a b) t r) : Smartened q t r := by
  refine Relation.ReflTransGen.single ?_
  induction rewritten with
  | nil => exact .nil
  | same c rest ih => exact .same c ih
  | piece ruled rest ih =>
    obtain ⟨rfl, rfl⟩ := ruled
    exact .piece sets ih

/-- A text is rewritten when quotes open after some of its characters. -/
theorem rewritten_openQuotesFrom (before : Char → Bool) (quote glyph : Char) (t : Text) :
    Rewritten (Becomes [quote] [glyph]) t (openQuotesFrom before quote glyph t) := by
  fun_induction openQuotesFrom before quote glyph t with
  | case1 c d t opens ih =>
    obtain ⟨-, rfl⟩ := opens
    exact .same c (.piece ⟨rfl, rfl⟩ ih)
  | case2 c d t closes ih => exact .same c ih
  | case3 t short => exact .refl _ t

/-- A text is rewritten when quotes open at its start and after some of its characters. -/
theorem rewritten_openQuotes (before : Char → Bool) (quote glyph : Char) (t : Text) :
    Rewritten (Becomes [quote] [glyph]) t (openQuotes before quote glyph t) := by
  cases t with
  | nil => exact .nil
  | cons c t =>
    rw [openQuotes]
    split
    · rename_i same
      exact .piece ⟨congrArg ([·]) same, rfl⟩ (rewritten_openQuotesFrom before quote glyph t)
    · exact rewritten_openQuotesFrom before quote glyph (c :: t)

/-- Dashes are set by passes over the text. -/
theorem smartened_withDashes (q : Quotes) (t : Text) : Smartened q t (withDashes t) :=
  (Smartened.pass .emDash (rewritten_replace (by decide) t)).trans
    (Smartened.pass .enDash (rewritten_replace (by decide) _))

/-- Single quotes are set by passes over the text. -/
theorem smartened_withSingles (q : Quotes) (t : Text) : Smartened q t (withSingles q t) :=
  (Smartened.pass .openSingle (rewritten_openQuotes _ _ _ t)).trans
    (Smartened.pass .closeSingle (rewritten_replaceChar _ _ _))

/-- Double quotes are set by passes over the text. -/
theorem smartened_withDoubles (q : Quotes) (t : Text) : Smartened q t (withDoubles q t) :=
  (Smartened.pass .openDouble (rewritten_openQuotes _ _ _ t)).trans
    (Smartened.pass .closeDouble (rewritten_replaceChar _ _ _))

/-- Ellipses are set by a pass over the text. -/
theorem smartened_ellipses (q : Quotes) (t : Text) : Smartened q t (replace "..." "…" t) :=
  Smartened.pass .ellipsis (rewritten_replace (by decide) t)

/-! ## Reading the straight text -/

/-- The straight punctuation that a glyph was put for; any other character stands for itself. -/
def Quotes.straight (q : Quotes) (c : Char) : Text :=
  if c = '—' then "---"
  else if c = '–' then "--"
  else if c = '…' then "..."
  else if c = q.openDouble ∨ c = q.closeDouble then "\""
  else if c = q.openSingle ∨ c = q.closeSingle then "'"
  else [c]

/-- The text with straight punctuation for each glyph. -/
def straighten (q : Quotes) (t : Text) : Text := t.flatMap q.straight

/-- Glyphs from which the straight text can be read: they are no other punctuation that is replaced
or set, and none is put for both kinds of quotes. -/
structure Quotes.Legible (q : Quotes) : Prop where
  /-- No hyphen, straight quote, full stop, dash or ellipsis is a glyph. -/
  apart : ∀ c ∈ ("-'\".—–…" : Text), c ∉ q.toText
  /-- No glyph for double quotes is one for single quotes. -/
  differ : ∀ d ∈ [q.openDouble, q.closeDouble], ∀ s ∈ [q.openSingle, q.closeSingle], d ≠ s

/-- A text whose characters stand for themselves is its own straight text. -/
theorem straighten_of_plain {q : Quotes} {t : Text} (plain : ∀ c ∈ t, q.straight c = [c]) :
    straighten q t = t := by
  induction t with
  | nil => rfl
  | cons c t ih =>
    obtain ⟨first, rest⟩ := List.forall_mem_cons.mp plain
    unfold straighten at ih ⊢
    rw [List.flatMap_cons, first, ih rest]
    rfl

/-- A character that is never set stands for itself. -/
theorem Quotes.straight_of_free {q : Quotes} {c : Char} (unquoted : c ∉ q.toText)
    (unset : c ∉ ("—–…" : Text)) : q.straight c = [c] := by
  have listed : ("—–…" : Text) = ['—', '–', '…'] := by decide
  simp only [toText, listed, List.mem_cons, List.not_mem_nil, or_false, not_or] at unquoted unset
  simp [straight, unquoted, unset]

namespace Quotes.Legible

variable {q : Quotes} (legible : q.Legible)

include legible

/-- Straight punctuation stands for itself. -/
theorem straighten_punctuation {t : Text} (straight : ∀ c ∈ t, c ∈ ("-'\"." : Text)) :
    straighten q t = t := by
  have classes : ∀ c ∈ ("-'\"." : Text), c ∈ ("-'\".—–…" : Text) ∧ c ∉ ("—–…" : Text) :=
    forall_mem_of_all (by decide)
  refine straighten_of_plain fun c member => ?_
  obtain ⟨listed, unset⟩ := classes c (straight c member)
  exact straight_of_free (legible.apart c listed) unset

/-- A glyph stands for a straight quote of its kind. -/
theorem straight_of_glyph {c : Char} (member : c ∈ q.toText) :
    q.straight c = if c = q.openDouble ∨ c = q.closeDouble then ['"'] else ['\''] := by
  have unset : c ≠ '—' ∧ c ≠ '–' ∧ c ≠ '…' :=
    ⟨ne_of_mem_of_not_mem member (legible.apart _ (by decide)),
      ne_of_mem_of_not_mem member (legible.apart _ (by decide)),
      ne_of_mem_of_not_mem member (legible.apart _ (by decide))⟩
  have glyph : ¬(c = q.openDouble ∨ c = q.closeDouble) → c = q.openSingle ∨ c = q.closeSingle := by
    simpa [toText, or_assoc, or_iff_not_imp_left] using member
  unfold straight
  rw [if_neg unset.1, if_neg unset.2.1, if_neg unset.2.2]
  split
  · rfl
  · rename_i single
    rw [if_pos (glyph single)]
    rfl

/-- Each glyph stands for the punctuation that it is put for. -/
theorem straighten_of_sets {a b : Text} (sets : q.Sets a b) : straighten q b = straighten q a := by
  have punctuation : straighten q a = a :=
    legible.straighten_punctuation (by cases sets <;> exact forall_mem_of_all (by decide))
  have single {s : Char} (glyph : s ∈ [q.openSingle, q.closeSingle]) :
      straighten q [s] = ['\''] := by
    have member : s ∈ q.toText := List.mem_cons_of_mem _ (List.mem_cons_of_mem _ glyph)
    have other : ¬(s = q.openDouble ∨ s = q.closeDouble) := by
      rintro (rfl | rfl)
      · exact legible.differ _ List.mem_cons_self _ glyph rfl
      · exact legible.differ _ (List.mem_cons_of_mem _ List.mem_cons_self) _ glyph rfl
    rw [straighten, List.flatMap_singleton, legible.straight_of_glyph member, if_neg other]
  have double {d : Char} (glyph : d = q.openDouble ∨ d = q.closeDouble) :
      straighten q [d] = ['"'] := by
    have member : d ∈ q.toText := by rcases glyph with rfl | rfl <;> simp [toText]
    rw [straighten, List.flatMap_singleton, legible.straight_of_glyph member, if_pos glyph]
  rw [punctuation]
  cases sets with
  | emDash => rfl
  | enDash => rfl
  | openSingle => exact single List.mem_cons_self
  | closeSingle => exact single (List.mem_cons_of_mem _ List.mem_cons_self)
  | openDouble => exact double (.inl rfl)
  | closeDouble => exact double (.inr rfl)
  | ellipsis => rfl

/-- Passes keep the straight text that can be read off a text. -/
theorem straighten_eq {t r : Text} (smartened : Smartened q t r) :
    straighten q r = straighten q t := by
  induction smartened with
  | refl => rfl
  | tail earlier pass ih => exact (pass.flatMap_eq fun _ _ => legible.straighten_of_sets).trans ih

end Quotes.Legible

/-- Typographic punctuation is reached by passes over the text. -/
theorem smartened_smarten (q : Quotes) (t : Text) : Smartened q t (smarten q t) :=
  (((smartened_withDashes q t).trans (smartened_withSingles q _)).trans
    (smartened_withDoubles q _)).trans (smartened_ellipses q _)

/-- **Typographic punctuation loses nothing**: a text without glyphs, dashes and ellipses of its own
is what its typographic form says in straight punctuation. -/
theorem straighten_smarten {q : Quotes} (legible : q.Legible) {t : Text}
    (free : ∀ c ∈ t, c ∉ q.toText ∧ c ∉ ("—–…" : Text)) : straighten q (smarten q t) = t := by
  have plain : straighten q t = t := straighten_of_plain fun c member =>
    Quotes.straight_of_free (free c member).1 (free c member).2
  exact (legible.straighten_eq (smartened_smarten q t)).trans plain

/-- The typographic form of a text with French glyphs says the text. -/
theorem straighten_smarten_of_guillemets :
    let q : Quotes := ⟨'«', '»', '‹', '›'⟩
    let t : Text := "\"'a\" -- b'---('c....') \"-----\""
    q.Legible ∧ (∀ c ∈ t, c ∉ q.toText ∧ c ∉ ("—–…" : Text)) ∧ straighten q (smarten q t) = t := by
  intro q t
  have legible : q.Legible := ⟨forall_mem_of_all (by decide), by simp [q]⟩
  have free : ∀ c ∈ t, c ∉ q.toText ∧ c ∉ ("—–…" : Text) := forall_mem_of_all (by decide)
  exact ⟨legible, free, straighten_smarten legible free⟩

/-! ## Nothing is left to replace -/

/-- A text without the straight punctuation that typographic punctuation replaces. -/
structure Settled (t : Text) : Prop where
  /-- No straight single quote is left. -/
  single : '\'' ∉ t
  /-- No straight double quote is left. -/
  double : '"' ∉ t
  /-- No two hyphens stand side by side. -/
  dashes : ¬("--" : Text) <:+: t
  /-- No three full stops stand side by side. -/
  dots : ¬("..." : Text) <:+: t

/-- A settled text has nothing to replace. -/
theorem smarten_of_settled {t : Text} (settled : Settled t) (q : Quotes) : smarten q t = t := by
  have quiet {p r s : Text} (absent : ¬p <:+: t) (rewritten : Rewritten (Becomes p r) t s) :
      s = t :=
    rewritten.eq_of_absent fun a b ruled => ruled.1 ▸ absent
  have single : ¬['\''] <:+: t := fun inside =>
    settled.single ((List.singleton_infix_iff _ t).mp inside)
  have double : ¬['"'] <:+: t := fun inside =>
    settled.double ((List.singleton_infix_iff _ t).mp inside)
  have three : ¬("---" : Text) <:+: t := fun inside =>
    settled.dashes (List.IsInfix.trans ⟨['-'], [], by decide⟩ inside)
  have dashes : withDashes t = t := by
    rw [withDashes, quiet three (rewritten_replace (by decide) t),
      quiet settled.dashes (rewritten_replace (by decide) t)]
  have singles : withSingles q t = t := by
    rw [withSingles, quiet single (rewritten_openQuotes _ _ _ t),
      quiet single (rewritten_replaceChar _ _ t)]
  have doubles : withDoubles q t = t := by
    rw [withDoubles, quiet double (rewritten_openQuotes _ _ _ t),
      quiet double (rewritten_replaceChar _ _ t)]
  rw [smarten_eq, dashes, singles, doubles, quiet settled.dots (rewritten_replace (by decide) t)]

section Apart

variable {q : Quotes} (apart : ∀ c ∈ ("-'\"." : Text), c ∉ q.toText)

include apart

/-- No glyph is straight punctuation. -/
theorem Quotes.Sets.outside {d : Char} (punctuation : d ∈ ("-'\"." : Text)) (a b : Text)
    (sets : q.Sets a b) : b ≠ [] ∧ d ∉ b := by
  have others : ∀ d ∈ ("-'\"." : Text), d ∉ ("—" : Text) ∧ d ∉ ("–" : Text) ∧ d ∉ ("…" : Text) :=
    forall_mem_of_all (by decide)
  have quotes := apart d punctuation
  simp only [toText, List.mem_cons, List.not_mem_nil, or_false, not_or] at quotes
  cases sets with
  | emDash => exact ⟨by decide, (others d punctuation).1⟩
  | enDash => exact ⟨by decide, (others d punctuation).2.1⟩
  | openSingle => simp [quotes]
  | closeSingle => simp [quotes]
  | openDouble => simp [quotes]
  | closeDouble => simp [quotes]
  | ellipsis => exact ⟨by decide, (others d punctuation).2.2⟩

/-- Passes bring no run of straight punctuation. -/
theorem Smartened.not_isInfix {d : Char} {n : Nat} {t r : Text} (smartened : Smartened q t r)
    (punctuation : d ∈ ("-'\"." : Text)) (absent : ¬List.replicate n d <:+: t) :
    ¬List.replicate n d <:+: r := by
  induction smartened with
  | refl => exact absent
  | tail earlier pass ih =>
    exact fun run => ih (pass.replicate_isInfix (Quotes.Sets.outside apart punctuation) run)

/-- Passes bring no straight punctuation. -/
theorem Smartened.not_mem {d : Char} {t r : Text} (smartened : Smartened q t r)
    (punctuation : d ∈ ("-'\"." : Text)) (absent : d ∉ t) : d ∉ r := by
  rw [← List.singleton_infix_iff] at absent ⊢
  exact smartened.not_isInfix (n := 1) apart punctuation absent

/-- Each kind of punctuation is gone after its passes and does not come back. -/
theorem settled_smarten (t : Text) : Settled (smarten q t) := by
  let dashed := withDashes t
  let single := withSingles q dashed
  let double := withDoubles q single
  have afterDoubles : Smartened q double (smarten q t) := smartened_ellipses q double
  have afterSingles : Smartened q single (smarten q t) :=
    (smartened_withDoubles q single).trans afterDoubles
  have afterDashes : Smartened q dashed (smarten q t) :=
    (smartened_withSingles q dashed).trans afterSingles
  have closes : q.closeSingle ≠ '\'' ∧ q.closeDouble ≠ '"' := by
    have quotes := And.intro (apart '\'' (by decide)) (apart '"' (by decide))
    simp only [Quotes.toText, List.mem_cons, List.not_mem_nil, or_false, not_or] at quotes
    exact ⟨Ne.symm quotes.1.2.2.2, Ne.symm quotes.2.2.1⟩
  refine ⟨?_, ?_, ?_, ?_⟩
  · exact afterSingles.not_mem apart (by decide) (not_mem_replaceChar closes.1 _)
  · exact afterDoubles.not_mem apart (by decide) (not_mem_replaceChar closes.2 _)
  · exact afterDashes.not_isInfix (n := 2) apart (by decide)
      (not_isInfix_replace (n := 2) (by decide) (by decide) (by decide) _)
  · exact not_isInfix_replace (n := 3) (by decide) (by decide) (by decide) _

end Apart

/-- **Typographic punctuation settles a text**: it leaves no straight quote, no two hyphens and no
three full stops side by side, and so changes nothing the second time. -/
theorem smarten_settles {q : Quotes} (apart : ∀ c ∈ ("-'\"." : Text), c ∉ q.toText) (t : Text) :
    Settled (smarten q t) ∧ smarten q (smarten q t) = smarten q t :=
  ⟨settled_smarten apart t, smarten_of_settled (settled_smarten apart t) q⟩

/-- Glyphs that are dashes, brackets and blanks settle a text too. -/
theorem smarten_settles_of_brackets :
    let q : Quotes := ⟨'(', '—', ' ', '…'⟩
    let t : Text := "'\"a\" -- b'---('c....') \"-----\"'"
    (∀ c ∈ ("-'\"." : Text), c ∉ q.toText) ∧
      Settled (smarten q t) ∧ smarten q (smarten q t) = smarten q t := by
  intro q t
  have apart : ∀ c ∈ ("-'\"." : Text), c ∉ q.toText := forall_mem_of_all (by decide)
  exact ⟨apart, smarten_settles apart t⟩

end MarkdownSite.Text
