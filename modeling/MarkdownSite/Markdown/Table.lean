import MarkdownSite.Markdown.Line

/-!
# Tables

A table is a line of headings, a line that aligns the columns, and any number of lines of cells.
-/

namespace MarkdownSite.Markdown

open Text

/-- How the cells of a column are aligned. -/
inductive Alignment where
  | left
  | center
  | right
  deriving DecidableEq, Repr

/-- The name of an alignment. -/
def Alignment.name : Alignment → Text
  | left => "left"
  | center => "center"
  | right => "right"

/-- A table as it is written: the texts of its cells. -/
structure TableSource where
  /-- The alignment of each column. -/
  alignments : List (Option Alignment)
  /-- The headings, one a column. -/
  head : List Text
  /-- The rows, each with one cell a column. -/
  rows : List (List Text)
  deriving DecidableEq, Repr

/-- The pieces of a text between bars that no backslash escapes. -/
def splitCellsFrom (escaped : Bool) : Text → List Text
  | [] => [[]]
  | c :: t =>
    if c = '|' ∧ ¬escaped then [] :: splitCellsFrom false t
    else
      match splitCellsFrom (c == '\\') t with
      | [] => [[c]]
      | piece :: rest => (c :: piece) :: rest

/-- The texts of the cells of a row. -/
def splitCells (row : Text) : List Text := (splitCellsFrom false row).map trim

/-- The alignment that a cell below a heading gives; `none` if it gives none. -/
def alignment? (cell : Text) : Option Alignment :=
  let isDashes (t : Text) : Bool := !t.isEmpty && t.all (· == '-')
  match cell with
  | ':' :: rest =>
    if isDashes rest then some .left
    else if rest.getLast? = some ':' ∧ isDashes rest.dropLast then some .center
    else none
  | _ => if cell.getLast? = some ':' ∧ isDashes cell.dropLast then some .right else none

/-- What stands between the bars at both ends of a row. -/
def barredRow? (line : Text) : Option Text := do
  match ← dropIndent? 3 line with
  | '|' :: rest =>
    let inside ← dropSuffix? "|" (stripEndWhere isSpaceTab rest)
    return inside
  | _ => none

/-- Whether a text is made of hyphens, colons, bars and spaces only. -/
def isAlignmentText (t : Text) : Bool :=
  t.all fun c => c == '-' || c == ':' || c == '|' || c == ' '

/-- Whether a row between bars aligns columns: it starts with a hyphen or a colon. -/
def isBarredAlignment (inside : Text) : Bool :=
  let rest := inside.dropWhile (· == ' ')
  rest.head?.any (fun c => c == '-' || c == ':') && isAlignmentText rest

/-- Whether a line without bars at its ends aligns columns: at least one bar stands behind a
hyphen or colon. -/
def isOpenAlignment (line : Text) : Bool :=
  match dropIndent? 3 line with
  | some rest =>
    let dashes := rest.takeWhile fun c => c == '-' || c == ':'
    let after := (rest.drop dashes.length).dropWhile (· == ' ')
    !dashes.isEmpty && after.head? = some '|' && isAlignmentText after
  | none => false

/-- Whether two lines start a table with bars at the ends of its rows. -/
def startsTable (line : Text) (rest : List Text) : Bool :=
  match barredRow? line, rest.head?.bind barredRow? with
  | some inside, some below => !inside.isEmpty && isBarredAlignment below
  | _, _ => false

/-- Whether a line may be a row without bars at its ends. -/
def isOpenRow (line : Text) : Bool := List.elem '|' line

/-- Whether two lines start a table without bars at the ends of its rows. -/
def startsOpenTable (line : Text) (rest : List Text) : Bool :=
  match dropIndent? 3 line with
  | some (c :: text) => !isBlank c && isOpenRow text && rest.head?.any isOpenAlignment
  | _ => false

/-- The table of a heading row, an alignment row and further rows; every row must have as many
cells as there are columns. -/
def TableSource.ofRows? (head below : Text) (rows : List Text) : Option TableSource :=
  let headings := splitCells head
  let alignments := (splitCells below).map alignment?
  let cells := rows.map splitCells
  if headings.length = alignments.length ∧ cells.all (·.length = alignments.length) then
    some { alignments, head := headings, rows := cells }
  else none

/-- The table with bars at the ends of its rows that starts here, and the lines after it. -/
def takeTable? (line : Text) (rest : List Text) : Option (TableSource × List Text) := do
  let head ← barredRow? line
  let below ← rest.head?.bind barredRow?
  let body := (rest.drop 1).takeWhile fun l => (barredRow? l).isSome
  let rows ← body.mapM barredRow?
  let table ← TableSource.ofRows? head below rows
  return (table, ((rest.drop 1).drop body.length).dropWhile List.isEmpty)

/-- The table without bars at the ends of its rows that starts here, and the lines after it. -/
def takeOpenTable? (line : Text) (rest : List Text) : Option (TableSource × List Text) := do
  let below ← rest.head?
  let body := (rest.drop 1).takeWhile isOpenRow
  let table ← TableSource.ofRows? line below body
  return (table, ((rest.drop 1).drop body.length).dropWhile List.isEmpty)

end MarkdownSite.Markdown
