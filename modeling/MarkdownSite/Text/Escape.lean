import MarkdownSite.Text.Basic

/-!
# Escaping for HTML

The characters that would be read as markup are written as character references. The forms differ
in the quotes they escape.
-/

namespace MarkdownSite.Text

/-- A character of element content: quotes stay as they are. -/
def escapeContentChar (c : Char) : Text :=
  if c = '&' then "&amp;" else if c = '<' then "&lt;" else if c = '>' then "&gt;" else [c]

/-- A character that may stand between double quotes: the single quote stays as it is. -/
def escapeMarkupChar (c : Char) : Text :=
  if c = '"' then "&quot;" else escapeContentChar c

/-- A character that may stand between quotes of either kind. -/
def escapeAttributeChar (c : Char) : Text :=
  if c = '\'' then "&#x27;" else escapeMarkupChar c

/-- Text as element content. -/
def escapeContent (t : Text) : Text := t.flatMap escapeContentChar

/-- Text as element content or as an attribute value in double quotes. -/
def escapeMarkup (t : Text) : Text := t.flatMap escapeMarkupChar

/-- Text as an attribute value in quotes of either kind. -/
def escapeAttribute (t : Text) : Text := t.flatMap escapeAttributeChar

end MarkdownSite.Text
