/-!
# Decimals

A decimal is a sign, a coefficient and a power of ten, so `0.50` and `0.5` differ although their values agree. Products keep 28 significant digits, a half going to the even neighbour; rounding to a whole number takes a half away from zero and refuses results of more than 28 digits.
-/

namespace UiToolkit

structure Decimal where
  negative : Bool
  coefficient : Nat
  exponent : Int
  deriving DecidableEq

/-- Why a number has no rounded value. -/
inductive RoundingError where
  /-- It is infinite, signals an error, or needs more than 28 digits. -/
  | invalid
  | notANumber
  deriving DecidableEq

namespace Decimal

def precision : Nat := 28

/-- The number of decimal digits of `n`, one for zero. -/
def digitCount (n : Nat) : Nat := if n < 10 then 1 else digitCount (n / 10) + 1
termination_by n
decreasing_by omega

/-- The quotient `n / d` rounded to the nearest whole number, a half to the even neighbour. -/
def divHalfEven (n d : Nat) : Nat :=
  let q := n / d
  let r := n % d
  if 2 * r < d || (2 * r == d && q % 2 == 0) then q else q + 1

/-- The quotient `n / d` rounded to the nearest whole number, a half upwards. -/
def divHalfUp (n d : Nat) : Nat := (2 * n + d) / (2 * d)

/-- The decimal rounded to `precision` significant digits. -/
def rounded (d : Decimal) : Decimal :=
  let excess := digitCount d.coefficient - precision
  if excess = 0 then d
  else
    let q := divHalfEven d.coefficient (Nat.pow 10 excess)
    if digitCount q ≤ precision then ⟨d.negative, q, d.exponent + excess⟩
    else ⟨d.negative, q / 10, d.exponent + excess + 1⟩

def scale (d : Decimal) (factor : Nat) : Decimal :=
  rounded ⟨d.negative, d.coefficient * factor, d.exponent⟩

/-- The absolute value rounded to a whole number; `none` for a power of ten too large to matter. -/
def wholeMagnitude? (d : Decimal) : Option Nat :=
  match d.exponent with
  | .ofNat e => if d.coefficient = 0 then some 0 else if precision < e then none else some (d.coefficient * Nat.pow 10 e)
  | .negSucc e =>
    if digitCount d.coefficient < e + 1 then some 0 else some (divHalfUp d.coefficient (Nat.pow 10 (e + 1)))

/-- The nearest whole number, halves away from zero. -/
def round (d : Decimal) : Except RoundingError Int :=
  match wholeMagnitude? d with
  | none => .error .invalid
  | some m =>
    if Nat.pow 10 precision ≤ m then .error .invalid
    else .ok (if d.negative then -(m : Int) else m)

end Decimal

end UiToolkit
