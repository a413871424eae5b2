import Mathlib.Data.List.Destutter
import Mathlib.Data.List.Infix
import MarkdownSite.Proofs.Text.Basic
import MarkdownSite.Url.Site

/-!
# Slashes under a root

A path is put under a root by writing the two with a slash between them and making one of every run
of slashes. The runs of the path are made one as well, wherever they stand, in a query or in an
address in it too. So the path stays as it is exactly if no two of its slashes stand side by side.
-/

namespace MarkdownSite.Url

open Text

/-! ## Runs of slashes -/

/-- Two neighbours are not both slashes. -/
def AreApart (c d : Char) : Prop := ¬(c = '/' ∧ d = '/')

instance : DecidableRel AreApart := fun c d => inferInstanceAs (Decidable ¬(c = '/' ∧ d = '/'))

/-- A character that is no second slash stays. -/
theorem collapseSlashes_cons {c : Char} {t : Text} (apart : ∀ d ∈ t.head?, AreApart c d) :
    collapseSlashes (c :: t) = c :: collapseSlashes t := by
  refine collapseSlashes.eq_2 c t fun rest slash more => ?_
  rw [more] at apart
  exact apart '/' rfl ⟨slash, rfl⟩

/-- Making one of every run of slashes drops each slash that follows one. -/
theorem collapseSlashes_eq_destutter (t : Text) : collapseSlashes t = t.destutter AreApart := by
  cases t with
  | nil => rfl
  | cons c t =>
    rw [List.destutter_cons']
    induction t generalizing c with
    | nil => exact collapseSlashes_cons nofun
    | cons d t ih =>
      by_cases apart : AreApart c d
      · rw [List.destutter'_cons_pos _ apart, ← ih d]
        exact collapseSlashes_cons fun _ first => Option.some.inj first ▸ apart
      · obtain ⟨rfl, rfl⟩ := not_not.mp apart
        rw [List.destutter'_cons_neg _ apart, ← ih '/', collapseSlashes]

/-- Runs of slashes that are made one leave all other characters. -/
theorem filter_collapseSlashes (t : Text) :
    (collapseSlashes t).filter (· != '/') = t.filter (· != '/') := by
  induction t using collapseSlashes.induct with
  | case1 t ih =>
    rw [collapseSlashes, ih]
    rfl
  | case2 c t single ih =>
    rw [collapseSlashes.eq_2 _ _ single, List.filter_cons, List.filter_cons, ih]
  | case3 => rfl

/-- Runs of slashes that are made one leave the first character. -/
theorem head?_collapseSlashes (t : Text) : (collapseSlashes t).head? = t.head? := by
  induction t using collapseSlashes.induct with
  | case1 t ih =>
    rw [collapseSlashes, ih]
    rfl
  | case2 c t single ih =>
    rw [collapseSlashes.eq_2 _ _ single]
    rfl
  | case3 => rfl

/-- No two slashes stand side by side exactly if all neighbours are apart. -/
theorem isChain_areApart_iff {t : Text} : t.IsChain AreApart ↔ ¬['/', '/'] <:+: t := by
  rw [List.isChain_iff_forall_rel_of_append_cons_cons]
  constructor
  · rintro apart ⟨before, after, whole⟩
    exact @apart '/' '/' before after (by simp [← whole]) ⟨rfl, rfl⟩
  · rintro absent c d before after whole ⟨rfl, rfl⟩
    exact absent ⟨before, after, by simp [whole]⟩

/-- A text stays as it is exactly if no two slashes stand side by side. -/
theorem collapseSlashes_eq_self_iff {t : Text} :
    collapseSlashes t = t ↔ ¬['/', '/'] <:+: t := by
  rw [collapseSlashes_eq_destutter, List.destutter_eq_self_iff, isChain_areApart_iff]

/-- What has no doubled slash and ends with none stays, whatever follows it. -/
theorem collapseSlashes_append {s : Text} (single : s.IsChain AreApart)
    (bare : s.getLast? ≠ some '/') (t : Text) :
    collapseSlashes (s ++ t) = s ++ collapseSlashes t := by
  induction s with
  | nil => rfl
  | cons c s ih =>
    cases s with
    | nil =>
      refine collapseSlashes_cons fun d _ both => bare ?_
      rw [both.1, List.getLast?_singleton]
    | cons d s =>
      obtain ⟨apart, others⟩ := List.isChain_cons_cons.mp single
      rw [List.getLast?_cons_cons] at bare
      rw [List.cons_append, collapseSlashes_cons fun _ first => Option.some.inj first ▸ apart,
        ih others bare]
      rfl

/-! ## Joining -/

/-- A text without its leading slash. -/
def afterSlash (t : Text) : Text := (dropPrefix? ['/'] t).getD t

/-- A text without its trailing slash. -/
def beforeSlash (t : Text) : Text := (dropSuffix? ['/'] t).getD t

/-- A path after a root, with one slash between them and nothing else changed. -/
def joined (root path : Text) : Text := beforeSlash root ++ '/' :: afterSlash path

/-- A slash at the start is dropped. -/
theorem afterSlash_slash (t : Text) : afterSlash ('/' :: t) = t := rfl

/-- A text that starts with no slash stays. -/
theorem afterSlash_of_head {t : Text} (other : t.head? ≠ some '/') : afterSlash t = t := by
  cases t with
  | nil => rfl
  | cons c t =>
    have differ : '/' ≠ c := fun same => other (by rw [same]; rfl)
    simp [afterSlash, dropPrefix?, differ]

/-- Texts that start with the same character are the same if they are after a slash. -/
theorem afterSlash_inj {s t : Text} (first : s.head? = t.head?) :
    afterSlash s = afterSlash t ↔ s = t := by
  by_cases slash : t.head? = some '/'
  · obtain ⟨s, rfl⟩ := List.head?_eq_some_iff.mp (first.trans slash)
    obtain ⟨t, rfl⟩ := List.head?_eq_some_iff.mp slash
    rw [afterSlash_slash, afterSlash_slash, List.cons_inj_right]
  · rw [afterSlash_of_head slash, afterSlash_of_head (first ▸ slash)]

/-- A slash before a text makes one with those at its start. -/
theorem collapseSlashes_slash (t : Text) :
    collapseSlashes ('/' :: t) = '/' :: afterSlash (collapseSlashes t) := by
  by_cases slash : t.head? = some '/'
  · obtain ⟨rest, same⟩ := List.head?_eq_some_iff.mp ((head?_collapseSlashes t).trans slash)
    obtain ⟨t, rfl⟩ := List.head?_eq_some_iff.mp slash
    rw [collapseSlashes, same, afterSlash_slash]
  · rw [afterSlash_of_head (by rwa [head?_collapseSlashes])]
    refine collapseSlashes_cons fun d first both => slash ?_
    rw [Option.mem_def.mp first, both.2]

/-- A slash at the end is dropped, and no other character. -/
theorem beforeSlash_concat (t : Text) (c : Char) :
    beforeSlash (t ++ [c]) = if c = '/' then t else t ++ [c] := by
  unfold beforeSlash dropSuffix?
  by_cases slash : c = '/'
  · simp [dropPrefix?, slash]
  · simp [dropPrefix?, slash, Ne.symm slash]

/-- **A root without doubled slashes stays, but for its trailing slash**, and the path after it has
one slash for each run. -/
theorem underRoot_eq {root path : Text} (single : ¬['/', '/'] <:+: root)
    (relative : isSiteRelative path = true) :
    underRoot path root = joined root (path.destutter AreApart) := by
  have chain := isChain_areApart_iff.mpr single
  rw [underRoot, if_pos relative, ← collapseSlashes_eq_destutter, joined, ← collapseSlashes_slash]
  rcases List.eq_nil_or_concat' root with rfl | ⟨start, c, rfl⟩
  · rfl
  · have filled : (start ++ [c]).isEmpty = false := by simp
    rw [filled, if_neg (by decide), beforeSlash_concat]
    split
    · rename_i slash
      -- the trailing slash and the one between root and path are one run
      subst slash
      have bare : start.getLast? ≠ some '/' := by
        intro last
        obtain ⟨before, rfl⟩ := List.getLast?_eq_some_iff.mp last
        exact single ⟨before, [], by simp⟩
      rw [List.append_assoc, collapseSlashes_append (List.isChain_append.mp chain).1 bare]
      rfl
    · rename_i other
      exact collapseSlashes_append chain (by simpa using other) _

/-- **A path stays as it is under a root exactly if no two of its slashes stand side by side.** The
root loses its trailing slash and the path its leading one, and one slash stands between them;
each run of slashes in the path is made one, and nothing else changes. -/
theorem underRoot_keeps_path_iff {root path : Text} (single : ¬['/', '/'] <:+: root)
    (relative : isSiteRelative path = true) :
    underRoot path root = joined root (path.destutter AreApart) ∧
      (underRoot path root = joined root path ↔ ¬['/', '/'] <:+: path) := by
  have placed := underRoot_eq single relative
  refine ⟨placed, ?_⟩
  rw [placed, joined, joined, List.append_cancel_left_eq, List.cons_inj_right,
    ← collapseSlashes_eq_destutter, afterSlash_inj (head?_collapseSlashes path),
    collapseSlashes_eq_self_iff]

/-- An address in a query loses a slash. -/
theorem underRoot_shortens_query :
    let root : Text := "/blog/"
    let path : Text := "/proxy?u=http://a.b/c.png"
    root.head? = some '/' ∧ ¬['/', '/'] <:+: root ∧ isSiteRelative path = true ∧
      joined root path = "/blog/proxy?u=http://a.b/c.png" ∧
      underRoot path root = "/blog/proxy?u=http:/a.b/c.png" := by
  decide

/-- A path without a doubled slash under a root with a slash at its end, and one with two under a
root without. -/
theorem underRoot_keeps_path_iff_of_query :
    underRoot "/a.png?u=b/c" "/blog/" = "/blog/a.png?u=b/c" ∧
      underRoot "a//b.png" "/blog" = "/blog/a/b.png" ∧
      underRoot "a//b.png" "/blog" ≠ joined "/blog" "a//b.png" := by
  obtain ⟨-, kept⟩ := @underRoot_keeps_path_iff "/blog/" "/a.png?u=b/c" (by decide) (by decide)
  obtain ⟨placed, shortened⟩ := @underRoot_keeps_path_iff "/blog" "a//b.png" (by decide) (by decide)
  refine ⟨kept.mpr (by decide), placed.trans (by decide), fun same => ?_⟩
  exact shortened.mp same (by decide)

end MarkdownSite.Url
