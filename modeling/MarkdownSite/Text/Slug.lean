import MarkdownSite.Text.Blank
import MarkdownSite.Unicode.Normalization

/-!
# Slugs

A slug names a heading in the fragment part of a URL. Accented Latin letters lose their accents,
control characters go, and each run of blanks and punctuation becomes one separator, of which none
stays at either end. Letters of other scripts stay as they are, and so does the letter case unless
a transform is asked for.
-/

namespace MarkdownSite.Text

open Unicode

/-- What happens to the letter case of a slug. -/
inductive CaseTransform where
  | none
  | lower
  | upper
  deriving DecidableEq, Repr

namespace CaseTransform

/-- The text in the letter case of the transform. -/
def apply : CaseTransform → Text → Text
  | none, t => t
  | lower, t => Unicode.lower t
  | upper, t => Unicode.upper t

/-- The number by which options name the transform. -/
def toNat : CaseTransform → Nat
  | none => 0
  | lower => 1
  | upper => 2

end CaseTransform

/-- A letter without its accents, if it is an ASCII letter with nonspacing marks. -/
def foldAccents (c : Char) : Char :=
  if c.toNat < 128 then c
  else
    match canonicalExpansion c with
    | base :: marks =>
      if base.toNat < 128 && !marks.isEmpty && marks.all isNonspacing then base else c
    | [] => c

/-- The text with accented Latin letters replaced by their bases. -/
def removeAccents (t : Text) : Text := (normalize canonical t).map foldAccents

/-- The characters below the space. -/
def isControl (c : Char) : Bool := c.toNat < 32

/-- Punctuation that is unsafe or ambiguous in the fragment of a URL. -/
def isUnsafePunctuation (c : Char) : Bool :=
  ("~`!@#$%^&*()-_+=[]\x7b\x7d|\\;:\"'<>,.?/" : Text).contains c

/-- The characters that a separator stands for. -/
def isSlugBreak (c : Char) : Bool := isBlank c || isUnsafePunctuation c

/-- A part of a separator as it is written: text, or the run that the separator replaces. -/
inductive TemplatePart where
  | text (t : Text)
  | run

/-- What a template stands for at a run of characters that it replaces. -/
def fillTemplate (parts : List TemplatePart) (run : Text) : Text :=
  parts.flatMap fun
    | .text t => t
    | .run => run

/-- The control character that a backslash and a letter write. -/
def templateEscape? (c : Char) : Option Char :=
  match c with
  | 'a' => some '\x07'
  | 'b' => some '\x08'
  | 'f' => some '\x0c'
  | 'n' => some '\n'
  | 'r' => some '\r'
  | 't' => some '\t'
  | 'v' => some '\x0b'
  | '\\' => some '\\'
  | _ => none

/-- Whether a character is an octal digit. -/
def isOctal (c : Char) : Bool := '0' ≤ c && c ≤ '7'

/-- The value of a run of octal digits. -/
def octalValue (t : Text) : Nat := (toNatBase? 8 t).getD 0

/-- Reads a template. A backslash writes a control character, a character by its octal number, or
with `g<0>` the replaced run; other letters and numbers after a backslash are refused, and so is a
backslash at the end. `fuel` bounds the number of characters. -/
def parseTemplateFrom : (fuel : Nat) → Text → Option (List TemplatePart)
  | 0, _ => some []
  | _, [] => some []
  | fuel + 1, '\\' :: t =>
    match t with
    | [] => none
    | '0' :: rest =>
      let digits := (rest.takeWhile isOctal).take 2
      let code := octalValue ('0' :: digits)
      (parseTemplateFrom fuel (rest.drop digits.length)).map (.text [Char.ofNat code] :: ·)
    | 'g' :: '<' :: rest =>
      match splitFirst ">" rest with
      | some (name, rest) =>
        if toNatBase? 10 name = some 0 then (parseTemplateFrom fuel rest).map (.run :: ·) else none
      | none => none
    | c :: rest =>
      if c.isDigit then
        match rest with
        | d :: e :: rest =>
          let code := octalValue [c, d, e]
          if isOctal c && isOctal d && isOctal e && code ≤ 0xFF then
            (parseTemplateFrom fuel rest).map (.text [Char.ofNat code] :: ·)
          else none
        | _ => none
      else
        match templateEscape? c with
        | some d => (parseTemplateFrom fuel rest).map (.text [d] :: ·)
        | none =>
          if c.isAlpha then none
          else (parseTemplateFrom fuel rest).map (.text ['\\', c] :: ·)
  | fuel + 1, c :: t => (parseTemplateFrom fuel t).map (.text [c] :: ·)

/-- Reads a template, or refuses it. -/
def parseTemplate? (t : Text) : Option (List TemplatePart) := parseTemplateFrom t.length t

/-- Replaces each run of characters that satisfy `p`; `run` holds, last first, the run so far. -/
def replaceRunsFrom (p : Char → Bool) (f : Text → Text) (run : Text) : Text → Text
  | [] => if run.isEmpty then [] else f run.reverse
  | c :: t =>
    if p c then replaceRunsFrom p f (c :: run) t
    else (if run.isEmpty then [] else f run.reverse) ++ c :: replaceRunsFrom p f [] t

/-- Replaces each run of characters that satisfy `p`. -/
def replaceRuns (p : Char → Bool) (f : Text → Text) (t : Text) : Text := replaceRunsFrom p f [] t

/-- How often `sep` stands at the start of a text, and what follows; `fuel` bounds the count. -/
def leadingCopies (sep : Text) : (fuel : Nat) → Text → Nat × Text
  | 0, t => (0, t)
  | fuel + 1, t =>
    match dropPrefix? sep t with
    | some rest => let (n, rest) := leadingCopies sep fuel rest; (n + 1, rest)
    | none => (0, t)

/-- Replaces each place where the nonempty `sep` stands two or more times in a row; `fuel` is at
least the length of the text. -/
def collapseCopies (sep : Text) (f : Text → Text) : (fuel : Nat) → Text → Text
  | 0, t => t
  | _, [] => []
  | fuel + 1, c :: t =>
    let (n, rest) := leadingCopies sep (fuel + 1) (c :: t)
    if n ≥ 2 then f (List.replicate n sep).flatten ++ collapseCopies sep f fuel rest
    else c :: collapseCopies sep f fuel t

/-- Drops the copies of the nonempty `sep` at both ends. -/
def trimCopies (sep t : Text) : Text :=
  let (_, t) := leadingCopies sep t.length t
  let (_, reversed) := leadingCopies sep.reverse t.length t.reverse
  reversed.reverse

/-- The slug of a text with a separator that has been read as a template. -/
def slugWith (separator : Text) (template : List TemplatePart) (transform : CaseTransform)
    (t : Text) : Text :=
  let t := (removeAccents t).filter fun c => !isControl c
  let t := replaceRuns isSlugBreak (fillTemplate template) t
  let t :=
    if separator.isEmpty then t
    else trimCopies separator (collapseCopies separator (fillTemplate template) t.length t)
  transform.apply t

/-- The slug of a text with the given separator, or `none` if the separator is no template. -/
def slugSeparated? (separator : Text) (transform : CaseTransform) (t : Text) : Option Text :=
  (parseTemplate? separator).map fun template => slugWith separator template transform t

/-- The slug of a text, with a hyphen between words. -/
def slug (transform : CaseTransform) (t : Text) : Text :=
  slugWith "-" [.text "-"] transform t

end MarkdownSite.Text
