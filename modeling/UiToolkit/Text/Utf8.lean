import UiToolkit.Text.Basic

/-!
# UTF-8

Text as bytes and back. Only the shortest form of a character is read, and surrogates stand for none. Reading a file also turns every line end into a single line feed.
-/

namespace UiToolkit.Text

def utf8 (s : Text) : List UInt8 := s.flatMap String.utf8EncodeChar

/-- The bits that a continuation byte carries. -/
def continuation? (b : UInt8) : Option Nat := if b.toNat / 64 = 2 then some (b.toNat % 64) else none

def two? (a b : UInt8) : Option Char := do
  let n := (a.toNat % 32) * 64 + (← continuation? b)
  if n < 0x80 then none else some (Char.ofNat n)

def three? (a b c : UInt8) : Option Char := do
  let n := ((a.toNat % 16) * 64 + (← continuation? b)) * 64 + (← continuation? c)
  if n < 0x800 || (0xD800 ≤ n && n ≤ 0xDFFF) then none else some (Char.ofNat n)

def four? (a b c d : UInt8) : Option Char := do
  let n := (((a.toNat % 8) * 64 + (← continuation? b)) * 64 + (← continuation? c)) * 64 + (← continuation? d)
  if n < 0x10000 || 0x10FFFF < n then none else some (Char.ofNat n)

/-- The text that the bytes encode, if they encode one. -/
def ofUtf8? : List UInt8 → Option Text
  | [] => some []
  | a :: as =>
    if a.toNat < 0x80 then (ofUtf8? as).map (Char.ofNat a.toNat :: ·)
    else if a.toNat / 32 = 6 then
      match as with
      | b :: rest => do return (← two? a b) :: (← ofUtf8? rest)
      | _ => none
    else if a.toNat / 16 = 14 then
      match as with
      | b :: c :: rest => do return (← three? a b c) :: (← ofUtf8? rest)
      | _ => none
    else if a.toNat / 8 = 30 then
      match as with
      | b :: c :: d :: rest => do return (← four? a b c d) :: (← ofUtf8? rest)
      | _ => none
    else none

/-- Every line end as a line feed. -/
def unifyLineEnds : Text → Text
  | [] => []
  | '\r' :: '\n' :: cs => '\n' :: unifyLineEnds cs
  | c :: cs => (if c == '\r' then '\n' else c) :: unifyLineEnds cs

end UiToolkit.Text
