import UiToolkit.Decimal.Numeral
import UiToolkit.Text.Blank
import UiToolkit.Uss.Piece

/-!
# Lengths in pixels

An `em` or a `rem` is 16 pixels, and the product is rounded to whole pixels. Terms whose product has more than 28 digits cannot be converted.
-/

namespace UiToolkit

namespace Pixels

open Text

def perEm : Nat := 16

def ofEm (numeral : Text) : Except RoundingError Text := do
  let pixels ← ((Decimal.ofNumeral numeral).scale perEm).round
  return Text.ofInt pixels ++ "px"

/-- No word goes on after the last character of a term. -/
def endsWord : Text → Bool
  | [] => true
  | c :: _ => !isWordChar c

/-- The number of characters of the unit `em` or `rem`, in any case, at the start of `s`. -/
def emExtent? (s : Text) : Option Nat :=
  if startsWithAnyCase "rem" s && endsWord (s.drop 3) then some 3
  else if startsWithAnyCase "em" s && endsWord (s.drop 2) then some 2
  else none

def continuesTerm (c : Char) : Bool := isWordChar c || c == '.' || c == '-'

/-- Recognizes a numeral with the unit `em` or `rem` that does not continue another word or number. -/
def readEm : Piece.Reader Text := fun before c cs => do
  if before.any continuesTerm then none
  let n ← Numeral.extent? (c :: cs)
  let unit ← emExtent? ((c :: cs).drop n)
  return (n + unit - 1, (c :: cs).take n)

/-- Every `em` and `rem` term written in pixels. -/
def convertEms (value : Text) : Except RoundingError Text := do
  let parts ← (Piece.scan readEm value).mapM fun
    | .guarded span => .ok span
    | .term _ numeral => ofEm numeral
    | .plain c => .ok [c]
  return parts.flatten

/-- A single number, `px`, `em` or `rem` term in pixels; `none` for any other term. -/
def ofTerm? (term : Text) : Except RoundingError (Option Text) :=
  match Numeral.split? (trim term) with
  | none => .ok none
  | some (numeral, unit) =>
    let unit := asciiLower unit
    if unit == "em".toList || unit == "rem".toList then (ofEm numeral).map some
    else if unit == "px".toList || unit.isEmpty then .ok (some (numeral ++ "px"))
    else .ok none

end Pixels

end UiToolkit
