import MarkdownSite.Unicode.Normalization
import MarkdownSite.Url.Error
import MarkdownSite.Url.HostTable
import MarkdownSite.Url.Punycode

/-!
# Host names in ASCII

A host name with characters beyond ASCII is prepared label by label, letters folded and variants
replaced, and each label that is not ASCII then is written in Punycode after `xn--`.
-/

namespace MarkdownSite.Url

open Text Unicode

/-- The letters whose folded form is not their lower case. -/
def foldings : List (Char × Text) := (splitOn ';' foldingSource).filterMap parseMapping

/-- A character as host names fold it; omitted characters become nothing. -/
def foldHostChar (c : Char) : Text :=
  if inRanges omittedRanges c then []
  else (foldings.lookup c).getD (lowerChar c)

/-- The label with its letters folded and its variants replaced. -/
def foldLabel (label : Text) : Text := normalize compatibility (label.flatMap foldHostChar)

/-- The folded label, unless it has a character that is refused or its directions mix. -/
def prepareLabel (label : Text) : Except LabelError Text :=
  let folded := foldLabel label
  match folded.find? (inRanges refusedRanges) with
  | some c => .error (.refused c)
  | none =>
    let rightToLeft := inRanges rightToLeftRanges
    if folded.any rightToLeft then
      if folded.any (inRanges leftToRightRanges) then .error .mixedDirection
      else if (folded.head?.any rightToLeft) && (folded.getLast?.any rightToLeft) then .ok folded
      else .error .openDirection
    else .ok folded

/-- A label of permitted length. -/
def checkLabelLength (label : Text) : Except LabelError Text :=
  if 0 < label.length ∧ label.length < 64 then .ok label else .error .badLength

/-- The ASCII form of a label. -/
def encodeLabel (label : Text) : Except LabelError Text :=
  if isAscii label then checkLabelLength label
  else do
    let prepared ← prepareLabel label
    if isAscii prepared then checkLabelLength prepared
    else if startsWith "xn--" prepared then throw .alreadyEncoded
    else checkLabelLength ("xn--" ++ Punycode.encode prepared)

/-- The characters that divide a host name into labels. -/
def isLabelDot (c : Char) : Bool := c == '.' || c == '\u3002' || c == '\uFF0E' || c == '\uFF61'

/-- The ASCII form of a host name; a final dot stays. -/
def encodeHostName (host : Text) : Except LabelError Text := do
  let labels := splitWhere isLabelDot host
  let trailing := labels.getLast? == some []
  let encoded ← (if trailing then labels.dropLast else labels).mapM encodeLabel
  return join "." encoded ++ (if trailing then ['.'] else [])

end MarkdownSite.Url
