import UiToolkit.Text.Basic

/-!
# Log entries

What is worth noting while a style sheet or a document is worked on. An entry says how much it matters and which part of the work it comes from.
-/

namespace UiToolkit

inductive LogLevel where
  | debug
  | info
  | warning
  deriving DecidableEq

def LogLevel.name : LogLevel → Text
  | .debug => "DEBUG"
  | .info => "INFO"
  | .warning => "WARNING"

/-- The part of the work that an entry comes from. -/
inductive LogSource where
  | styleSheet
  | conversion
  | markup
  deriving DecidableEq

def LogSource.name : LogSource → Text
  | .styleSheet => "html2uitk.uss.parser"
  | .conversion => "html2uitk.convert.engine"
  | .markup => "html2uitk.markup.uxml"

structure LogEntry where
  level : LogLevel
  source : LogSource
  message : Text
  deriving DecidableEq

def LogEntry.line (e : LogEntry) : Text := e.level.name ++ [' '] ++ e.source.name ++ ": " ++ e.message ++ ['\n']

end UiToolkit
