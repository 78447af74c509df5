import UiToolkit.Text.Basic

/-!
# Blank characters

What separates words: the white space of Unicode together with the four information separators 1C to 1F. The zero width space and the byte order mark are not blank.
-/

namespace UiToolkit.Text

def isBlank (c : Char) : Bool :=
  let n := c.toNat
  (9 ≤ n && n ≤ 13) || (0x1C ≤ n && n ≤ 0x20) || n == 0x85 || n == 0xA0 || n == 0x1680
    || (0x2000 ≤ n && n ≤ 0x200A) || n == 0x2028 || n == 0x2029 || n == 0x202F || n == 0x205F || n == 0x3000

def trim (s : Text) : Text := trimWhile isBlank s

/-- Nothing but blanks, possibly nothing at all. -/
def isBlankText (s : Text) : Bool := s.all isBlank

/-- The maximal runs of characters that are not blank. -/
def words (s : Text) : List Text := (cut isBlank s).filter (!·.isEmpty)

end UiToolkit.Text
