import Mathlib.Data.List.Basic
import MarkdownSite.Proofs.Text.Pieces
import MarkdownSite.Proofs.Url.Emitted
import MarkdownSite.Site.Path

/-!
# Segments of paths

A path is its segments with slashes between them. Where no segment is empty, folder and name of a
path put together again are the path. A folder that is looked for in a path is found at the first
segment that has its name.
-/

namespace MarkdownSite

namespace Text

/-! ## Cutting at a character -/

/-- A text starts with no text that starts with another character. -/
theorem startsWith_of_head {c : Char} {t : Text} (other : t.head? ≠ some c) (p : Text) :
    startsWith (c :: p) t = false := by
  cases t with
  | nil => rfl
  | cons d rest =>
    have differs : c ≠ d := fun same => other (by rw [same]; rfl)
    rw [startsWith, dropPrefix?, if_neg differs]
    rfl

/-- A text is not found before its first character is. -/
theorem splitFirst_append_of_absent {c : Char} {p before : Text} (absent : c ∉ before) (t : Text) :
    (splitFirst (c :: p) (before ++ t)).map Prod.snd = (splitFirst (c :: p) t).map Prod.snd := by
  induction before with
  | nil => rfl
  | cons d before ih =>
    rw [List.mem_cons, not_or] at absent
    rw [List.cons_append, splitFirst, dropPrefix?, if_neg absent.1, ← ih absent.2, Option.map_map]
    rfl

/-- A text ends with a character exactly if it is its last one. -/
theorem endsWith_singleton (c : Char) (t : Text) :
    endsWith [c] t = true ↔ t.getLast? = some c := by
  unfold endsWith dropSuffix?
  rw [List.getLast?_eq_head?_reverse]
  cases t.reverse with
  | nil => simp [dropPrefix?]
  | cons d rest =>
    by_cases same : c = d
    · simp [dropPrefix?, same]
    · simp [dropPrefix?, same, Ne.symm same]

/-- Nothing is dropped from the end where another character stands. -/
theorem stripEndWhere_slash {t : Text} (bare : t.getLast? ≠ some '/') :
    stripEndWhere (· == '/') t = t := by
  rw [List.getLast?_eq_head?_reverse] at bare
  unfold stripEndWhere
  cases turned : t.reverse with
  | nil => rw [List.dropWhile_nil, ← turned, List.reverse_reverse]
  | cons c rest =>
    rw [turned, List.head?_cons] at bare
    rw [List.dropWhile_cons_of_neg, ← turned, List.reverse_reverse]
    intro same
    exact bare (by rw [eq_of_beq same])

/-- A slash is dropped from the end. -/
theorem stripEndWhere_concat (t : Text) :
    stripEndWhere (· == '/') (t ++ ['/']) = stripEndWhere (· == '/') t := by
  unfold stripEndWhere
  rw [List.reverse_append]
  rfl

end Text

namespace Path

open Text Url

/-! ## Slashes -/

/-- A path with forward slashes has no other ones. -/
theorem not_mem_forward (path : Text) : '\\' ∉ forward path := by
  intro member
  obtain ⟨c, -, same⟩ := List.mem_map.mp member
  split at same
  · cases same
  · rename_i other
    exact other same

/-- A path without backslashes has forward slashes. -/
theorem forward_eq_self {path : Text} (absent : '\\' ∉ path) : forward path = path := by
  unfold forward replaceChar
  rw [List.map_congr_left (g := id), List.map_id]
  intro c member
  rw [if_neg (by rintro rfl; exact absent member), id]

/-- Slashes are made forward once. -/
@[simp]
theorem forward_forward (path : Text) : forward (forward path) = forward path :=
  forward_eq_self (not_mem_forward path)

/-- The slashes of a path are made forward part by part. -/
theorem forward_append (first second : Text) :
    forward (first ++ second) = forward first ++ forward second := List.map_append

/-- No slash ends the given folder, which the path names with or without a slash at its end. -/
structure Names (path folder : Text) : Prop where
  /-- The path is not empty. -/
  present : path ≠ []
  /-- The folder is without a slash at its end. -/
  bare : folder.getLast? ≠ some '/'
  /-- The path is the folder, or has a slash after it. -/
  spelled : path = folder ∨ path = folder ++ ['/']

/-- A folder without a slash at its end names itself. -/
theorem names_self {folder : Text} (present : folder ≠ []) (bare : folder.getLast? ≠ some '/') :
    Names folder folder := ⟨present, bare, .inl rfl⟩

/-- A relative path joined to a folder stands after it and a slash. -/
theorem Names.join {path folder inner : Text} (names : Names path folder)
    (relative : inner.head? ≠ some '/') : Path.join path inner = folder ++ '/' :: inner := by
  have starts : startsWith "/" inner = false := startsWith_of_head relative []
  rw [Path.join, if_neg (by rw [starts]; decide)]
  rcases names.spelled with rfl | rfl
  · rw [if_neg]
    rintro (empty | ends)
    · exact names.present (List.isEmpty_iff.mp empty)
    · exact names.bare ((endsWith_singleton '/' path).mp ends)
  · have ends : endsWith "/" (folder ++ ['/']) = true :=
      (endsWith_singleton '/' _).mpr List.getLast?_concat
    rw [if_pos (Or.inr ends), List.append_assoc]
    rfl

/-! ## Segments -/

/-- No segment of the path is empty: it has a name, and neither starts nor ends with a slash nor
has two in a row. -/
def HasSegments (path : Text) : Prop := ∀ segment ∈ splitOn '/' path, segment ≠ []

instance (path : Text) : Decidable (HasSegments path) :=
  List.decidableBAll (fun segment => segment ≠ []) (splitOn '/' path)

/-- A path with its segments starts with no slash. -/
theorem HasSegments.head {path : Text} (segments : HasSegments path) :
    path.head? ≠ some '/' := by
  intro first
  obtain ⟨rest, rfl⟩ := List.head?_eq_some_iff.mp first
  have empty : [] ∈ splitOn '/' ('/' :: rest) := by
    rw [← List.nil_append ('/' :: rest), splitOn_piece (by simp)]
    exact List.mem_cons_self
  exact segments [] empty rfl

/-- A path with its segments ends with no slash. -/
theorem HasSegments.last {path : Text} (segments : HasSegments path) :
    path.getLast? ≠ some '/' := by
  intro last
  obtain ⟨before, rfl⟩ := List.getLast?_eq_some_iff.mp last
  have empty : [] ∈ splitOn '/' (before ++ ['/']) := by
    rw [splitOn_append_cons]
    exact List.mem_append_right _ (List.mem_singleton.mpr rfl)
  exact segments [] empty rfl

/-- A path with its segments is not empty. -/
theorem HasSegments.present {path : Text} (segments : HasSegments path) : path ≠ [] := by
  rintro rfl
  exact segments [] (List.mem_singleton.mpr rfl) rfl

/-- A path with its segments under a folder names itself. -/
theorem HasSegments.names {inner : Text} (segments : HasSegments inner) (folder : Text) :
    Names (folder ++ '/' :: inner) (folder ++ '/' :: inner) := by
  refine ⟨by simp, ?_, .inl rfl⟩
  have last : (folder ++ '/' :: inner).getLast? = inner.getLast? := by
    rw [List.append_cons, List.getLast?_append_of_ne_nil _ segments.present]
  rw [last]
  exact segments.last

/-- What precedes a slash has its segments. -/
theorem HasSegments.folder {before last : Text} (segments : HasSegments (before ++ '/' :: last)) :
    HasSegments before := fun segment member =>
  segments segment (by rw [splitOn_append_cons]; exact List.mem_append_left _ member)

/-! ## Names and extensions -/

/-- A name has only characters of its own before the extension. -/
theorem mem_of_mem_stem {name : Text} {c : Char} (member : c ∈ stem name) : c ∈ name := by
  unfold stem splitExtension at member
  split at member
  · rename_i before extension found
    split at member
    · exact member
    · have whole := Option.map_eq_some_iff.mp found
      obtain ⟨⟨after, before'⟩, cut, same⟩ := whole
      cases same
      have turned := eq_append_of_splitFirst cut
      rw [← List.mem_reverse, turned]
      exact List.mem_append_right _ (List.mem_reverse.mp member)
  · exact member

/-- A name is not all extension. -/
theorem stem_ne_nil {name : Text} (present : name ≠ []) : stem name ≠ [] := by
  unfold stem splitExtension
  split
  · rename_i before extension found
    split
    · exact present
    · rename_i other
      rintro rfl
      exact other rfl
  · exact present

/-- The path with its name cut before the extension. -/
def withoutExtension (path : Text) : Text :=
  match splitLast '/' path with
  | some (before, last) => before ++ '/' :: stem last
  | none => stem path

/-- A name alone is cut before its extension. -/
theorem withoutExtension_of_not_mem {name : Text} (absent : '/' ∉ name) :
    withoutExtension name = stem name := by
  rw [withoutExtension, splitLast_eq_none absent]

/-- A path is cut before the extension of what follows its last slash. -/
theorem withoutExtension_append {last : Text} (absent : '/' ∉ last) (before : Text) :
    withoutExtension (before ++ '/' :: last) = before ++ '/' :: stem last := by
  rw [withoutExtension, splitLast_append absent]

/-- A path keeps its segments without the extension. -/
theorem HasSegments.withoutExtension {path : Text} (segments : HasSegments path) :
    HasSegments (withoutExtension path) := by
  have named {last : Text} (absent : '/' ∉ last) (member : last ∈ splitOn '/' path) :
      ∀ segment ∈ splitOn '/' (stem last), segment ≠ [] := by
    intro segment inside
    rw [splitOn_of_not_mem fun slash => absent (mem_of_mem_stem slash), List.mem_singleton]
      at inside
    rw [inside]
    exact stem_ne_nil (segments last member)
  by_cases member : '/' ∈ path
  · obtain ⟨before, last, rfl, absent⟩ := exists_last member
    rw [withoutExtension_append absent]
    intro segment inside
    rw [splitOn_append_cons, List.mem_append] at inside
    rcases inside with early | final
    · exact segments.folder segment early
    · refine named absent ?_ segment final
      rw [splitOn_append_cons, splitOn_of_not_mem absent]
      exact List.mem_append_right _ (List.mem_singleton.mpr rfl)
  · rw [withoutExtension_of_not_mem member]
    exact named member (by rw [splitOn_of_not_mem member]; exact List.mem_singleton.mpr rfl)

/-- The name of a path is what follows its last slash. -/
theorem name_append {last : Text} (absent : '/' ∉ last) (before : Text) :
    name (before ++ '/' :: last) = last := by
  rw [name, splitLast_append absent]

/-- The folder of a path with its segments is what precedes its last slash. -/
theorem folder_append {before last : Text} (absent : '/' ∉ last) (segments : HasSegments before) :
    folder (before ++ '/' :: last) = before := by
  have bare : stripEndWhere (· == '/') before = before := stripEndWhere_slash segments.last
  rw [folder, splitLast_append absent]
  dsimp only
  rw [if_neg, bare]
  intro slashes
  cases before with
  | nil => exact segments.present rfl
  | cons c rest =>
    rw [List.all_cons, Bool.and_eq_true] at slashes
    exact segments.head (by rw [List.head?_cons, eq_of_beq slashes.1])

/-! ## The folder of the sources -/

/-- Where a path stands under the folder of the sources, what follows is its place there. -/
theorem relativeToSource_of_names {path sourceDir folder inner : Text}
    (names : Names (forward sourceDir) folder) (under : forward path = folder ++ '/' :: inner) :
    relativeToSource path sourceDir = inner := by
  have bare : stripEndWhere (· == '/') (forward sourceDir) = folder := by
    rcases names.spelled with same | slash
    · rw [same, stripEndWhere_slash names.bare]
    · rw [slash, stripEndWhere_concat, stripEndWhere_slash names.bare]
  have whole : forward path = (folder ++ ['/']) ++ inner := by
    rw [under, List.append_assoc]
    rfl
  unfold relativeToSource
  dsimp only
  rw [bare, whole, dropPrefix?_append]

section Segment

variable {d : Text}

/-- A folder of a single segment is found at a segment that has its name. -/
theorem splitFirst_segment (d rest : Text) :
    splitFirst ('/' :: (d ++ ['/'])) ('/' :: (d ++ '/' :: rest)) = some ([], rest) := by
  have whole : '/' :: (d ++ '/' :: rest) = ('/' :: (d ++ ['/'])) ++ rest := by simp
  rw [splitFirst, whole, dropPrefix?_append]

/-- A folder of a single segment is not found at a segment with another name. -/
theorem splitFirst_other_segment (plain : '/' ∉ d) {segment : Text} (absent : '/' ∉ segment)
    (other : segment ≠ d) (rest : Text) :
    (splitFirst ('/' :: (d ++ ['/'])) ('/' :: (segment ++ '/' :: rest))).map Prod.snd =
      (splitFirst ('/' :: (d ++ ['/'])) ('/' :: rest)).map Prod.snd := by
  have skipped : dropPrefix? ('/' :: (d ++ ['/'])) ('/' :: (segment ++ '/' :: rest)) = none := by
    cases dropped : dropPrefix? ('/' :: (d ++ ['/'])) ('/' :: (segment ++ '/' :: rest)) with
    | none => rfl
    | some after =>
      have whole : segment ++ '/' :: rest = (d ++ ['/']) ++ after :=
        (List.cons.inj (dropPrefix?_eq_some_iff.mp dropped)).2
      rw [List.append_assoc, List.singleton_append] at whole
      have cut := congrArg (splitFirst ['/']) whole
      rw [splitFirst_singleton absent, splitFirst_singleton plain] at cut
      exact absurd (congrArg Prod.fst (Option.some.inj cut)) other
  rw [splitFirst, skipped, ← splitFirst_append_of_absent absent ('/' :: rest), Option.map_map]
  rfl

/-- A folder of a single segment is found at the first segment that has its name. -/
theorem splitFirst_under (plain : '/' ∉ d) (project inner : Text) :
    ∃ rest, (splitFirst ('/' :: (d ++ ['/']))
        ('/' :: (project ++ '/' :: (d ++ '/' :: inner)))).map Prod.snd = some rest ∧
      (rest = inner ↔ d ∉ splitOn '/' project) := by
  have longer {before after : Text} (more : after.length ≥ inner.length) :
      before ++ '/' :: after ≠ inner := fun same => by
    have lengths := congrArg List.length same
    simp only [List.length_append, List.length_cons] at lengths
    omega
  induction project using piecewise '/' with
  | last segment absent =>
    rw [splitOn_of_not_mem absent, List.mem_singleton]
    by_cases same : segment = d
    · subst same
      refine ⟨segment ++ '/' :: inner, by rw [splitFirst_segment]; rfl, ?_⟩
      simp [longer]
    · rw [splitFirst_other_segment plain absent same, splitFirst_segment]
      exact ⟨inner, rfl, by simp [Ne.symm same]⟩
  | more segment rest absent ih =>
    rw [splitOn_piece absent, List.mem_cons, List.append_assoc, List.cons_append]
    by_cases same : segment = d
    · subst same
      refine ⟨rest ++ '/' :: (segment ++ '/' :: inner), by rw [splitFirst_segment]; rfl, ?_⟩
      have different : rest ++ '/' :: (segment ++ '/' :: inner) ≠ inner :=
        longer (by rw [List.length_append, List.length_cons]; omega)
      simp [different]
    · obtain ⟨found, cut, place⟩ := ih
      rw [splitFirst_other_segment plain absent same]
      exact ⟨found, cut, by simp [place, Ne.symm same]⟩

/-- The place of a path under a folder of a single segment is what follows the first segment that
has its name. -/
theorem relativeToSource_segment (present : d ≠ []) (plain : '/' ∉ d) (slashes : '\\' ∉ d)
    (path : Text) :
    relativeToSource path d = ((splitFirst ('/' :: (d ++ ['/'])) ('/' :: forward path)).map
      Prod.snd).getD (forward path) := by
  have bare : stripEndWhere (· == '/') (forward d) = d := by
    rw [forward_eq_self slashes, stripEndWhere_slash fun last => plain (List.mem_of_getLast? last)]
  have first : (d ++ ['/']).dropWhile (· == '/') = d ++ ['/'] := by
    cases d with
    | nil => exact absurd rfl present
    | cons c rest =>
      rw [List.cons_append, List.dropWhile_cons_of_neg]
      intro same
      exact plain (by rw [eq_of_beq same]; exact List.mem_cons_self)
  unfold relativeToSource
  dsimp only
  rw [bare, first, splitFirst, dropPrefix?, if_pos rfl]
  cases dropPrefix? (d ++ ['/']) (forward path) with
  | some rest => rfl
  | none =>
    dsimp only
    cases splitFirst ('/' :: (d ++ ['/'])) (forward path) with
    | none => rfl
    | some parts => rfl

end Segment

end Path

end MarkdownSite
