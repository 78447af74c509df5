import UiToolkit.Text.Basic
import UiToolkit.Text.LetterTable

/-!
# Letters and digits

A decimal digit has a value from 0 to 9 in some script. Digits include characters such as `²` that have a digit value but no place in a numeral, and numerals go on to fractions and the like.
-/

namespace UiToolkit.Text

def inRanges (ranges : List (Nat × Nat)) (n : Nat) : Bool :=
  ranges.any fun (first, last) => first ≤ n && n ≤ last

def decimalValue? (c : Char) : Option Nat :=
  let n := c.toNat
  if 48 ≤ n && n ≤ 57 then some (n - 48)
  else if n < 128 then none
  else (decimalRanges.find? fun (first, last) => first ≤ n && n ≤ last).map fun (first, _) => (n - first) % 10

def isDecimal (c : Char) : Bool := (decimalValue? c).isSome

def isDigit (c : Char) : Bool := isDecimal c || inRanges furtherDigitRanges c.toNat

def isLetter (c : Char) : Bool :=
  let n := c.toNat
  if n < 128 then (65 ≤ n && n ≤ 90) || (97 ≤ n && n ≤ 122) else inRanges letterRanges n

def isAlphanumeric (c : Char) : Bool :=
  isLetter c || isDigit c || inRanges furtherNumeralRanges c.toNat

def isWordChar (c : Char) : Bool := c == '_' || isAlphanumeric c

def isAsciiLetter (c : Char) : Bool := c.isAlpha

def isHexDigit (c : Char) : Bool :=
  c.isDigit || ('a' ≤ c && c ≤ 'f') || ('A' ≤ c && c ≤ 'F')

def hexValue (c : Char) : Nat :=
  if c.isDigit then c.toNat - 48 else if 'a' ≤ c then c.toNat - 87 else c.toNat - 55

end UiToolkit.Text
