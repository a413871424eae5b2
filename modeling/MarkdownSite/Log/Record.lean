import MarkdownSite.Text.Basic

/-!
# Log records

What the library reports while it works. An operation that reports is a state transformer on the
records so far, so the order of the records is part of its meaning.
-/

namespace MarkdownSite

/-- How grave a record is. -/
inductive LogLevel where
  | debug
  | info
  | warning
  | error
  | critical
  deriving DecidableEq, Repr

namespace LogLevel

/-- The number of a level; graver levels have greater ones. -/
def number : LogLevel → Int
  | debug => 10
  | info => 20
  | warning => 30
  | error => 40
  | critical => 50

/-- The name of a level in records. -/
def name : LogLevel → Text
  | debug => "DEBUG"
  | info => "INFO"
  | warning => "WARNING"
  | error => "ERROR"
  | critical => "CRITICAL"

end LogLevel

/-- The part of the library that a record comes from. -/
inductive LogSource where
  | library
  | documents
  | configuration
  | headings
  | hooks
  | options
  | nodes
  | site
  | highlighting
  | sanitizer
  | typography
  | urls
  deriving DecidableEq, Repr

/-- The name of a source in records. -/
def LogSource.name : LogSource → Text
  | library => "sitemark"
  | documents => "sitemark.api"
  | configuration => "sitemark.config"
  | headings => "sitemark.anchors"
  | hooks => "sitemark.hooks"
  | options => "sitemark.options"
  | nodes => "sitemark.renderer"
  | site => "sitemark.site"
  | highlighting => "sitemark.utils.highlight"
  | sanitizer => "sitemark.utils.html_sanitizer"
  | typography => "sitemark.utils.smartypants"
  | urls => "sitemark.utils.urls"

/-- One report. -/
structure LogRecord where
  /-- How grave it is. -/
  level : LogLevel
  /-- Where it comes from. -/
  source : LogSource
  /-- What it says. -/
  message : Text
  deriving DecidableEq, Repr

/-- A computation that reports; its state is the records so far, in order. -/
abbrev Logged := StateM (List LogRecord)

/-- Reports at the given level. -/
def report (level : LogLevel) (source : LogSource) (message : Text) : Logged Unit :=
  modify fun records => records ++ [⟨level, source, message⟩]

/-- Reports what helps to follow the work. -/
def debug (source : LogSource) (message : Text) : Logged Unit := report .debug source message

/-- Reports what went wrong without stopping the work. -/
def warn (source : LogSource) (message : Text) : Logged Unit := report .warning source message

end MarkdownSite
