import MarkdownSite.Text.Basic

/-!
# Paths

Paths with forward slashes: their folder, name and extension, and what they are relative to the
folder of the sources.
-/

namespace MarkdownSite.Path

open Text

/-- The path with forward slashes. -/
def forward (path : Text) : Text := replaceChar '\\' '/' path

/-- The path relative to a folder: an absolute path stays, else a slash stands between. -/
def join (folder path : Text) : Text :=
  if startsWith "/" path then path
  else if folder.isEmpty ∨ endsWith "/" folder then folder ++ path
  else folder ++ '/' :: path

/-- What follows the last slash. -/
def name (path : Text) : Text :=
  match splitLast '/' path with
  | some (_, name) => name
  | none => path

/-- What precedes the name, without the slashes that end it; slashes alone stay. -/
def folder (path : Text) : Text :=
  match splitLast '/' path with
  | some (before, _) =>
    if before.all (· == '/') then before ++ ['/'] else stripEndWhere (· == '/') before
  | none => []

/-- A name cut before its extension. The extension starts at the last full stop, unless only full
stops precede it. -/
def splitExtension (name : Text) : Text × Text :=
  match splitLast '.' name with
  | some (stem, extension) => if stem.all (· == '.') then (name, []) else (stem, '.' :: extension)
  | none => (name, [])

/-- A name without its extension. -/
def stem (name : Text) : Text := (splitExtension name).1

/-- The path relative to the folder of the sources; a path elsewhere stays. The folder may stand at
the start of the path or, with a slash before it, inside. -/
def relativeToSource (path sourceDir : Text) : Text :=
  let path := forward path
  let base := stripEndWhere (· == '/') (forward sourceDir) ++ ['/']
  match dropPrefix? base path with
  | some rest => rest
  | none =>
    match splitFirst ('/' :: base.dropWhile (· == '/')) path with
    | some (_, rest) => rest
    | none => path

end MarkdownSite.Path
