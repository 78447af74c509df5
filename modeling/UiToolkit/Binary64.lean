import UiToolkit.Decimal.Numeral

/-!
# Binary fractions of 64 bits

Numbers `m · 2 ^ q` with `m` below 2 ^ 53, read from decimals by rounding to the nearest one, a half to the even neighbour, and written with the fewest decimal digits that read back.
-/

namespace UiToolkit

inductive Binary64 where
  | finite (negative : Bool) (mantissa : Nat) (exponent : Int)
  | infinite (negative : Bool)
  | nan
  deriving DecidableEq

namespace Binary64

def mantissaBits : Nat := 53

def minExponent : Int := -1074

def maxExponent : Int := 971

/-- The quotient of `n · 2 ^ (-q)` by `d`, rounded. -/
def quotientAt (n d : Nat) (q : Int) : Nat :=
  match q with
  | .ofNat q => Decimal.divHalfEven n (d * Nat.pow 2 q)
  | .negSucc q => Decimal.divHalfEven (n * Nat.pow 2 (q + 1)) d

/-- The greatest exponent at which the positive quotient `n / d` has a full mantissa. -/
def exponentOf (n d : Nat) : Int :=
  let q : Int := (Nat.log2 n : Int) - Nat.log2 d - (mantissaBits - 1 : Nat)
  let full : Bool := match q with
    | .ofNat q => d * Nat.pow 2 (q + (mantissaBits - 1)) ≤ n
    | .negSucc q => d * Nat.pow 2 (mantissaBits - 1) ≤ n * Nat.pow 2 (q + 1)
  if full then q else q - 1

def ofQuotient (negative : Bool) (n d : Nat) : Binary64 :=
  let q := max minExponent (exponentOf n d)
  let m := quotientAt n d q
  let (m, q) := if m = Nat.pow 2 mantissaBits then (Nat.pow 2 (mantissaBits - 1), q + 1) else (m, q)
  if maxExponent < q then .infinite negative else .finite negative m q

/-- The nearest number; decimals far outside the range are settled by their leading digit. -/
def ofDecimal (d : Decimal) : Binary64 :=
  let leading := d.exponent + Decimal.digitCount d.coefficient
  if d.coefficient = 0 || leading < -330 then .finite d.negative 0 minExponent
  else if 310 < leading then .infinite d.negative
  else match d.exponent with
    | .ofNat e => ofQuotient d.negative (d.coefficient * Nat.pow 10 e) 1
    | .negSucc e => ofQuotient d.negative d.coefficient (Nat.pow 10 (e + 1))

/-- The value as a quotient of whole numbers. -/
def toQuotient (mantissa : Nat) (exponent : Int) : Nat × Nat :=
  match exponent with
  | .ofNat e => (mantissa * Nat.pow 2 e, 1)
  | .negSucc e => (mantissa, Nat.pow 2 (e + 1))

/-- The number `k` for which `10 ^ (k - 1) ≤ n / d < 10 ^ k`. -/
def decimalPoint (n d : Nat) : Int :=
  let k : Int := (Decimal.digitCount n : Int) - Decimal.digitCount d
  let reached : Bool := match k with
    | .ofNat k => d * Nat.pow 10 k ≤ n
    | .negSucc k => d ≤ n * Nat.pow 10 (k + 1)
  if reached then k + 1 else k

/-- The two neighbours of `n / d` among the multiples of `10 ^ e`, the nearer one first. -/
def neighbours (n d : Nat) (e : Int) : Nat × Nat :=
  let (n, d) := match e with
    | .ofNat e => (n, d * Nat.pow 10 e)
    | .negSucc e => (n * Nat.pow 10 (e + 1), d)
  let q := n / d
  if Decimal.divHalfEven n d = q then (q, q + 1) else (q + 1, q)

/-- The shortest decimal that reads back, trying `digits` digits and then more while there is `fuel`. -/
def shortestFrom (x : Binary64) (n d : Nat) (point : Int) : Nat → Nat → Decimal
  | 0, digits => ⟨false, (neighbours n d (point - digits)).1, point - digits⟩
  | fuel + 1, digits =>
    let e := point - digits
    let (near, far) := neighbours n d e
    if ofDecimal ⟨false, near, e⟩ = x then ⟨false, near, e⟩
    else if ofDecimal ⟨false, far, e⟩ = x then ⟨false, far, e⟩
    else shortestFrom x n d point fuel (digits + 1)

/-- Sixteen digits may fail to read back; seventeen never do. -/
def shortest (mantissa : Nat) (exponent : Int) : Decimal :=
  let (n, d) := toQuotient mantissa exponent
  shortestFrom (.finite false mantissa exponent) n d (decimalPoint n d) 16 1

def dropTrailingZeros (s : Text) : Text := Text.dropEndWhile (· == '0') s

/-- Exponents have a sign and at least two digits. -/
def exponentText (e : Int) : Text :=
  let ds := Text.ofNat e.natAbs
  (if e < 0 then '-' else '+') :: (if ds.length < 2 then '0' :: ds else ds)

/--
Digits `ds` with the point after the first `point` of them: positional, with at least one digit on either side of the point, while `-4 < point ≤ 16`, and with a power of ten otherwise.
-/
def digitsText (ds : Text) (point : Int) : Text :=
  if point ≤ -4 || 16 < point then
    let tail := ds.drop 1
    ds.take 1 ++ (if tail.isEmpty then [] else '.' :: tail) ++ 'e' :: exponentText (point - 1)
  else if point ≤ 0 then "0." ++ List.replicate (-point).toNat '0' ++ ds
  else
    let whole := ds.take point.toNat ++ List.replicate (point.toNat - ds.length) '0'
    let fraction := ds.drop point.toNat
    whole ++ '.' :: (if fraction.isEmpty then ['0'] else fraction)

def toText : Binary64 → Text
  | .nan => "nan"
  | .infinite negative => (if negative then ['-'] else []) ++ "inf"
  | .finite negative mantissa exponent =>
    let sign : Text := if negative then ['-'] else []
    if mantissa = 0 then sign ++ "0.0"
    else
      let d := shortest mantissa exponent
      let ds := Text.ofNat d.coefficient
      sign ++ digitsText (dropTrailingZeros ds) (ds.length + d.exponent)

end Binary64

end UiToolkit
