import UiToolkit.Decimal.Basic
import UiToolkit.Text.Letter

/-!
# Numerals

A numeral is an optional sign followed by digits with at most one point and at least one digit, in the shapes `10`, `10.`, `10.5` and `.5`. The digits may be those of any script.
-/

namespace UiToolkit

namespace Numeral

open Text

def digitExtent (s : Text) : Nat := (s.takeWhile isDecimal).length

/-- The length of the longest numeral without a sign at the start of `s`. -/
def unsignedExtent? (s : Text) : Option Nat :=
  let whole := digitExtent s
  match s.drop whole with
  | '.' :: rest =>
    let fraction := digitExtent rest
    if whole = 0 ∧ fraction = 0 then none else some (whole + 1 + fraction)
  | _ => if whole = 0 then none else some whole

def isSign (c : Char) : Bool := c == '+' || c == '-'

/-- The length of the longest numeral at the start of `s`. -/
def extent? (s : Text) : Option Nat :=
  match s with
  | [] => none
  | c :: cs => if isSign c then (unsignedExtent? cs).map (· + 1) else unsignedExtent? s

/-- The longest numeral at the start of `s`, and what follows it. -/
def split? (s : Text) : Option (Text × Text) := (extent? s).map fun n => (s.take n, s.drop n)

/-- The whole number that the decimal digits among the characters of `s` spell. -/
def digitsValue (s : Text) : Nat := (s.filterMap decimalValue?).foldl (fun n d => 10 * n + d) 0

end Numeral

/-- The decimal that a numeral spells, digit for digit. -/
def Decimal.ofNumeral (s : Text) : Decimal :=
  let fraction := (s.dropWhile (· ≠ '.')).drop 1
  ⟨s.head? == some '-', Numeral.digitsValue s, -(fraction.length : Int)⟩

end UiToolkit
