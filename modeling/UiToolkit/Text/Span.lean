import UiToolkit.Text.Case

/-!
# Closed quoted strings

A quoted string runs from a quote to the next one like it; a backslash takes the character after it along, unless that is a line feed, which no escape may hold. A quote that is never closed in this sense opens no string.
-/

namespace UiToolkit.Text

/-- The number of characters from here through the closing `quote`. -/
def closingQuote? (quote : Char) : Text → Option Nat
  | [] => none
  | '\\' :: '\n' :: _ => none
  | '\\' :: _ :: cs => (closingQuote? quote cs).map (· + 2)
  | ['\\'] => none
  | c :: cs => if c == quote then some 1 else (closingQuote? quote cs).map (· + 1)

/-- The number of characters after `c` that belong to the quoted string it opens. -/
def quotedExtent? (c : Char) (cs : Text) : Option Nat :=
  if c == '"' || c == '\'' then closingQuote? c cs else none

/-- `s` without its closed quoted strings. -/
def dropQuoted : Text → Text
  | [] => []
  | c :: cs =>
    match quotedExtent? c cs with
    | some n => dropQuoted (cs.drop n)
    | none => c :: dropQuoted cs
termination_by s => s.length
decreasing_by all_goals simp +arith

end UiToolkit.Text
