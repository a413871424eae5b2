import MarkdownSite.Text.Quoted

/-!
# Faults in URLs

Why a text is no URL, or why its host has no ASCII form.
-/

namespace MarkdownSite.Url

/-- Why a label of a host name has no ASCII form. -/
inductive LabelError where
  /-- The label has no character, or its ASCII form more than 63. -/
  | badLength
  /-- The label has a character that host names may not have. -/
  | refused (c : Char)
  /-- The label mixes writing from right to left with letters written from left to right. -/
  | mixedDirection
  /-- The label is written from right to left and does not start or does not end so. -/
  | openDirection
  /-- The label looks as if it had its ASCII form already. -/
  | alreadyEncoded
  deriving DecidableEq, Repr

/-- The fault in words. -/
def LabelError.message : LabelError → Text
  | badLength => "label empty or too long"
  | refused c => "Invalid character " ++ Text.quoted [c]
  | mixedDirection => "Violation of BIDI requirement 2"
  | openDirection => "Violation of BIDI requirement 3"
  | alreadyEncoded => "Label starts with ACE prefix"

/-- Why a text is no URL that can be encoded. -/
inductive UrlError where
  /-- A reference by a decimal number has more digits than are read. -/
  | longNumber (digits : Nat)
  /-- One square bracket stands in the authority without the other. -/
  | unbalancedBrackets
  /-- The brackets hold an address of version 4. -/
  | oldAddressInBrackets
  /-- The brackets hold something that starts like an address of a future version and is none. -/
  | badFutureAddress
  /-- The brackets hold no address. -/
  | noAddress (host : Text)
  /-- A character of the authority is a variant of one that ends a part of a URL. -/
  | delimiterLookalike (authority : Text)
  /-- A label of the host has no ASCII form. -/
  | badLabel (error : LabelError)
  deriving DecidableEq, Repr

/-- The fault in words. -/
def UrlError.message : UrlError → Text
  | longNumber digits =>
    "Exceeds the limit (4300 digits) for integer string conversion: value has "
      ++ Text.ofNat digits ++ " digits; use sys.set_int_max_str_digits() to increase the limit"
  | unbalancedBrackets => "Invalid IPv6 URL"
  | oldAddressInBrackets => "An IPv4 address cannot be in brackets"
  | badFutureAddress => "IPvFuture address is invalid"
  | noAddress host => Text.quoted host ++ " does not appear to be an IPv4 or IPv6 address"
  | delimiterLookalike authority =>
    "netloc '" ++ authority ++ "' contains invalid characters under NFKC normalization"
  | badLabel error =>
    "encoding with 'idna' codec failed (UnicodeError: " ++ error.message ++ ")"

end MarkdownSite.Url
