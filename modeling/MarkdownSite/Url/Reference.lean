import MarkdownSite.Url.Parts

/-!
# References relative to a base

The URL that a reference names when it stands in a document with a given address.
-/

namespace MarkdownSite.Url

open Text

/-- Schemes whose references may be relative. -/
def relativeSchemes : List Text :=
  ["", "ftp", "http", "gopher", "nntp", "imap", "wais", "file", "https", "shttp", "mms",
    "prospero", "rtsp", "rtsps", "rtspu", "sftp", "svn", "svn+ssh", "ws", "wss"]

/-- Schemes whose last path segment may have parameters after a semicolon. -/
def parameterSchemes : List Text :=
  ["", "ftp", "hdl", "prospero", "http", "imap", "https", "shttp", "rtsp", "rtsps", "rtspu", "sip",
    "sips", "mms", "sftp", "tel"]

/-- Splits the parameters off the last segment of a path. -/
def splitParameters (scheme path : Text) : Text × Text :=
  if parameterSchemes.contains scheme then
    let last := (path.reverse.takeWhile (· != '/')).reverse
    match splitFirst ";" last with
    | some (segment, parameters) =>
      (path.take (path.length - last.length) ++ segment, parameters)
    | none => (path, [])
  else (path, [])

/-- Follows the segments of a path: `..` takes the last one back and `.` stays; `walked` holds the
segments so far, last first. -/
def walkSegments (walked : List Text) : List Text → List Text
  | [] => walked.reverse
  | segment :: rest =>
    if segment = ['.', '.'] then walkSegments (walked.drop 1) rest
    else if segment = ['.'] then walkSegments walked rest
    else walkSegments (segment :: walked) rest

/-- Drops the empty segments except at the ends. -/
def dropInnerEmpty (segments : List Text) : List Text :=
  match segments with
  | [] => []
  | [segment] => [segment]
  | first :: rest => first :: (rest.dropLast.filter fun s => !s.isEmpty) ++ rest.getLast?.toList

/-- The path that a reference with path `path` names next to a document with path `base`. -/
def mergePaths (base path : Text) : Text :=
  let baseSegments := splitOn '/' base
  let folder := if baseSegments.getLast? == some [] then baseSegments else baseSegments.dropLast
  let segments :=
    if startsWith "/" path then splitOn '/' path
    else dropInnerEmpty (folder ++ splitOn '/' path)
  let walked := walkSegments [] segments
  let walked :=
    match segments.getLast? with
    | some last => if last = ['.'] ∨ last = ['.', '.'] then walked ++ [[]] else walked
    | none => walked
  let merged := join "/" walked
  if merged.isEmpty then ['/'] else merged

/-- The path with its parameters. -/
def withParameters (path parameters : Text) : Text :=
  if parameters.isEmpty then path else path ++ ';' :: parameters

/-- The URL that the reference `t` names in a document with the nonempty address `base`. -/
def resolve (base t : Text) : Except UrlError Text := do
  if t.isEmpty then return base
  let b ← Parts.parse base
  let r ← Parts.parseWith b.scheme t
  if r.scheme ≠ b.scheme ∨ !relativeSchemes.contains r.scheme then return t
  let hasAuthority := r.scheme.isEmpty || hierarchicalSchemes.contains r.scheme
  if hasAuthority && !r.authority.isEmpty then return r.toText
  let r := if hasAuthority then { r with authority := b.authority } else r
  let (basePath, baseParameters) := splitParameters b.scheme b.path
  let (path, parameters) := splitParameters r.scheme r.path
  if path.isEmpty && parameters.isEmpty then
    let query := if r.query.isEmpty then b.query else r.query
    return { r with path := withParameters basePath baseParameters, query }.toText
  return { r with path := withParameters (mergePaths basePath path) parameters }.toText

end MarkdownSite.Url
