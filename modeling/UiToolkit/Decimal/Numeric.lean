import UiToolkit.Decimal.Numeral
import UiToolkit.Text.Blank
import UiToolkit.Text.Case

/-!
# Numeric text

The wider notation for numbers: a decimal with an optional exponent, an infinity, or a value that is not a number and may carry a payload. Blanks around the number and underscores inside it do not count.
-/

namespace UiToolkit

inductive Numeric where
  | finite (value : Decimal)
  | infinite (negative : Bool)
  | nan (negative signalling : Bool) (payload : Nat)
  deriving DecidableEq

namespace Numeric

open Text

/-- Largest power of ten of a leading digit, and smallest power of ten of a last digit. -/
def maxAdjusted : Int := 999999999999999999

def minExponent : Int := -1999999999999999997

/-- The digits of any script as ASCII digits; `none` where another character above 7F stands. -/
def asciiForm? (s : Text) : Option Text :=
  (s.filter (· ≠ '_')).mapM fun c =>
    match decimalValue? c with
    | some d => some (Char.ofNat (48 + d))
    | none => if c.toNat < 128 then some c else none

def exponent? (s : Text) : Option Int :=
  let (negative, digits) := match s with
    | '-' :: r => (true, r)
    | '+' :: r => (false, r)
    | r => (false, r)
  if digits.isEmpty || !digits.all isDecimal then none
  else
    let n : Int := Numeral.digitsValue digits
    some (if negative then -n else n)

def isExponentMark (c : Char) : Bool := c == 'e' || c == 'E'

def finite? (negative : Bool) (s : Text) : Option Decimal := do
  let mantissa := s.takeWhile (!isExponentMark ·)
  let exponent ← match s.dropWhile (!isExponentMark ·) with
    | [] => some 0
    | _ :: r => exponent? r
  if Numeral.unsignedExtent? mantissa ≠ some mantissa.length then none
  let d := Decimal.ofNumeral mantissa
  let exponent := d.exponent + exponent
  if maxAdjusted < exponent + (Decimal.digitCount d.coefficient - 1) || exponent < minExponent then none
  some ⟨negative, d.coefficient, exponent⟩

def nan? (negative signalling : Bool) (payload : Text) : Option Numeric :=
  if payload.all isDecimal then some (.nan negative signalling (Numeral.digitsValue payload)) else none

def unsigned? (negative : Bool) (s : Text) : Option Numeric :=
  let folded := asciiLower s
  if folded == "inf".toList || folded == "infinity".toList then some (.infinite negative)
  else if "nan".toList.isPrefixOf folded then nan? negative false (s.drop 3)
  else if "snan".toList.isPrefixOf folded then nan? negative true (s.drop 4)
  else (finite? negative s).map .finite

def ofText? (s : Text) : Option Numeric := do
  let s ← asciiForm? (trim s)
  match s with
  | '-' :: r => unsigned? true r
  | '+' :: r => unsigned? false r
  | r => unsigned? false r

def round : Numeric → Except RoundingError Int
  | .finite d => d.round
  | .infinite _ => .error .invalid
  | .nan _ signalling _ => .error (if signalling then .invalid else .notANumber)

end Numeric

namespace Decimal

open Text

/-- Digits `ds` with the point after the first `n` of them, zeros filled in on the left. -/
def withPoint (ds : Text) (n : Int) : Text :=
  if n ≤ 0 then "0." ++ List.replicate (-n).toNat '0' ++ ds
  else if n.toNat < ds.length then ds.take n.toNat ++ '.' :: ds.drop n.toNat
  else ds

/--
The plain form when the exponent is not positive and at most five zeros follow the point; otherwise one digit before the point and the power of ten after an `E`.
-/
def toText (d : Decimal) : Text :=
  let ds := Text.ofNat d.coefficient
  let adjusted := d.exponent + (ds.length - 1 : Int)
  let sign : Text := if d.negative then ['-'] else []
  if d.exponent ≤ 0 ∧ -6 ≤ adjusted then sign ++ withPoint ds (ds.length + d.exponent)
  else sign ++ withPoint ds 1 ++ 'E' :: (if adjusted < 0 then [] else ['+']) ++ Text.ofInt adjusted

end Decimal

def Numeric.toText : Numeric → Text
  | .finite d => d.toText
  | .infinite negative => (if negative then ['-'] else []) ++ "Infinity"
  | .nan negative signalling payload =>
    (if negative then ['-'] else []) ++ (if signalling then ['s'] else []) ++ "NaN"
      ++ (if payload = 0 then [] else Text.ofNat payload)

end UiToolkit
