import UiToolkit.Text.Letter
import UiToolkit.Text.PrintableTable

/-!
# Quoted text

How text is shown inside a message: between single quotes, or between double quotes when it holds single quotes and no double ones. The enclosing quote, the backslash and whatever has no visible form are escaped.
-/

namespace UiToolkit.Text

def isPrintable (c : Char) : Bool :=
  let n := c.toNat
  if n < 128 then 32 ≤ n && n < 127 else !inRanges invisibleRanges n

/-- Lower case hexadecimal digits of `n`, padded with zeros to `width`. -/
def hexPadded (width n : Nat) : Text :=
  let digits := Nat.toDigits 16 n
  List.replicate (width - digits.length) '0' ++ digits

def escapeInvisible (c : Char) : Text :=
  let n := c.toNat
  if n < 0x100 then "\\x" ++ hexPadded 2 n
  else if n < 0x10000 then "\\u" ++ hexPadded 4 n
  else "\\U" ++ hexPadded 8 n

def escapeIn (quote c : Char) : Text :=
  if c == quote || c == '\\' then ['\\', c]
  else if c == '\n' then "\\n"
  else if c == '\r' then "\\r"
  else if c == '\t' then "\\t"
  else if isPrintable c then [c]
  else escapeInvisible c

def quoted (s : Text) : Text :=
  let quote := if s.contains '\'' && !s.contains '"' then '"' else '\''
  quote :: s.flatMap (escapeIn quote) ++ [quote]

end UiToolkit.Text
