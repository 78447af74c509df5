import UiToolkit.Text.Basic

/-!
# Nesting

Reading a value from left to right, a character stands inside quotes, inside round or square brackets, or at the top level. Brackets count outside quotes only, a closer counts only when it is the one the innermost open bracket waits for, and inside quotes a backslash hides the character after it.
-/

namespace UiToolkit.Text

structure Nesting where
  /-- The closers waited for, innermost first. -/
  closers : List Char
  quote : Option Char
  /-- Whether a backslash hides the next character. -/
  hidden : Bool
  deriving DecidableEq

namespace Nesting

def top : Nesting := ⟨[], none, false⟩

def isQuote (c : Char) : Bool := c == '\'' || c == '"'

def closerOf? (c : Char) : Option Char :=
  if c == '(' then some ')' else if c == '[' then some ']' else none

def step (n : Nesting) (c : Char) : Nesting :=
  match n.quote with
  | some q =>
    if n.hidden then { n with hidden := false }
    else if c == '\\' then { n with hidden := true }
    else if c == q then { n with quote := none }
    else n
  | none =>
    if isQuote c then { n with quote := some c }
    else match closerOf? c with
      | some closer => { n with closers := closer :: n.closers }
      | none => if n.closers.head? == some c then { n with closers := n.closers.tail } else n

/-- Whether `separator`, met here as `c`, ends a part. -/
def separates (n : Nesting) (separator c : Char) : Bool :=
  c == separator && n.quote.isNone && n.closers.isEmpty && !isQuote c && (closerOf? c).isNone

def after (n : Nesting) (s : Text) : Nesting := s.foldl step n

end Nesting

def splitFrom (separator : Char) : Nesting → Text → List Text
  | _, [] => [[]]
  | n, c :: cs =>
    if n.separates separator c then [] :: splitFrom separator n cs
    else match splitFrom separator (n.step c) cs with
      | [] => [[c]]
      | part :: parts => (c :: part) :: parts

/-- The parts of `s` between the separators at the top level. There is always at least one. -/
def splitTopLevel (separator : Char) (s : Text) : List Text := splitFrom separator Nesting.top s

/-- No bracket and no quote is left open. -/
def isBalanced (s : Text) : Bool :=
  let n := Nesting.top.after s
  n.closers.isEmpty && n.quote.isNone

def firstTopLevel (separator : Char) (s : Text) : Text := (splitTopLevel separator s).headD []

end UiToolkit.Text
