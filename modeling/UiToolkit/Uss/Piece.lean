import UiToolkit.Text.Span

/-!
# Pieces of a value

Rewriting looks for terms in a value and leaves everything else alone. Quoted strings and the calls `url(...)` and `resource(...)` are guarded: no term is looked for inside them. A value is thus a sequence of guarded spans, terms and single characters, and rewriting changes the terms only.
-/

namespace UiToolkit

inductive Piece (α : Type) where
  | guarded (span : Text)
  | term (source : Text) (meaning : α)
  | plain (c : Char)

namespace Piece

open Text

variable {α : Type}

def source : Piece α → Text
  | .guarded span => span
  | .term source _ => source
  | .plain c => [c]

/-- How many characters after `c` belong to the call of `name` that begins here, through the first closing bracket. -/
def callExtent? (name : String) (c : Char) (cs : Text) : Option Nat :=
  let opening := name.toList ++ ['(']
  let arguments := cs.drop (opening.length - 1)
  if startsWithAnyCase opening (c :: cs) && arguments.contains ')' then
    some (opening.length + (arguments.takeWhile (· ≠ ')')).length)
  else none

/-- How many characters after `c` belong to the guarded span that begins here. -/
def guardedExtent? (c : Char) (cs : Text) : Option Nat :=
  callExtent? "url" c cs <|> callExtent? "resource" c cs <|> quotedExtent? c cs

/--
Recognizes a term that begins at a character, given the character before it and those after it. The answer is how many characters follow in the term, and what it means.
-/
abbrev Reader (α : Type) := Option Char → Char → Text → Option (Nat × α)

def lastOf (c : Char) (cs : Text) : Char := cs.getLastD c

def ofText (read : Reader α) (before : Option Char) : Text → List (Piece α)
  | [] => []
  | c :: cs =>
    match guardedExtent? c cs with
    | some n => .guarded (c :: cs.take n) :: ofText read (some (lastOf c (cs.take n))) (cs.drop n)
    | none =>
      match read before c cs with
      | some (n, meaning) =>
        .term (c :: cs.take n) meaning :: ofText read (some (lastOf c (cs.take n))) (cs.drop n)
      | none => .plain c :: ofText read (some c) cs
termination_by s => s.length
decreasing_by all_goals simp +arith

/-- The pieces of a whole value. -/
def scan (read : Reader α) (value : Text) : List (Piece α) := ofText read none value

/-- The value with each term written by `write`. -/
def rewrite (write : α → Text) (pieces : List (Piece α)) : Text :=
  pieces.flatMap fun
    | .guarded span => span
    | .term _ meaning => write meaning
    | .plain c => [c]

end Piece

end UiToolkit
