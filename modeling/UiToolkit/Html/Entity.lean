import UiToolkit.Html.EntityTable
import UiToolkit.Text.Letter

/-!
# Character references

What a reference stands for, in running text and in attribute values, where the rules differ: in a value a name may lack its semicolon and be followed by more letters, and references to controls and noncharacters vanish.
-/

namespace UiToolkit.Html

open Text

/-- The text for a name without its semicolon. -/
def named? (name : Text) : Option Text :=
  (namedReferences.find? fun (n, _) => n.toList == name).map fun (_, codes) => codes.map Char.ofNat

/-- What stands in the upper control range of the encoding that numbers there are meant in. -/
def windowsCharacters : List (Nat × Nat) :=
  [(0x80, 0x20AC), (0x82, 0x201A), (0x83, 0x192), (0x84, 0x201E), (0x85, 0x2026), (0x86, 0x2020), (0x87, 0x2021),
    (0x88, 0x2C6), (0x89, 0x2030), (0x8A, 0x160), (0x8B, 0x2039), (0x8C, 0x152), (0x8E, 0x17D), (0x91, 0x2018),
    (0x92, 0x2019), (0x93, 0x201C), (0x94, 0x201D), (0x95, 0x2022), (0x96, 0x2013), (0x97, 0x2014), (0x98, 0x2DC),
    (0x99, 0x2122), (0x9A, 0x161), (0x9B, 0x203A), (0x9C, 0x153), (0x9E, 0x17E), (0x9F, 0x178)]

/-- The character for a number; zero and numbers of no character give the replacement character. -/
def numbered (n : Nat) : Char :=
  match windowsCharacters.lookup n with
  | some m => Char.ofNat m
  | none => if n = 0 then '\uFFFD' else if n.isValidChar then Char.ofNat n else '\uFFFD'

/-- Controls and noncharacters that an attribute value does not take. -/
def isVoidCode (n : Nat) : Bool :=
  (1 ≤ n && n ≤ 8) || n == 0xB || (0xE ≤ n && n ≤ 0x1F) || (0x7F ≤ n && n ≤ 0x9F) || (0xFDD0 ≤ n && n ≤ 0xFDEF)
    || (n ≤ 0x10FFFF && 0xFFFE ≤ n % 0x10000)

/-- Codes of the upper control range that stand for themselves. -/
def keptControls : List Nat := [0x81, 0x8D, 0x8F, 0x90, 0x9D]

def numberedInValue (n : Nat) : Text :=
  if (windowsCharacters.lookup n).isSome || keptControls.contains n then [numbered n]
  else if isVoidCode n then []
  else [numbered n]

def decimalNumber (digits : Text) : Nat := digits.foldl (fun n c => 10 * n + (c.toNat - 48)) 0

def hexNumber (digits : Text) : Nat := digits.foldl (fun n c => 16 * n + hexValue c) 0

def maxNameLength : Nat := 32

def isNameChar (c : Char) : Bool :=
  !(c == '\t' || c == '\n' || c == '\x0c' || c == ' ' || c == '<' || c == '&' || c == '#' || c == ';')

/-- The longest name of at least two letters that needs no semicolon, among the first `n` characters, and its length. -/
def bareName? (name : Text) : Nat → Option (Text × Nat)
  | 0 => none
  | n + 1 =>
    if n + 1 < 2 then none
    else if bareNames.any fun b => b.toList == name.take (n + 1) then
      (named? (name.take (n + 1))).map (·, n + 1)
    else bareName? name n

/-- The text for the reference that a name makes in a value; unknown names stay as they are. -/
def namedInValue (name : Text) (semicolon : Bool) : Text :=
  let semicolonText : Text := if semicolon then [';'] else []
  let whole := if semicolon then named? name else none
  match whole with
  | some text => text
  | none =>
    match bareName? name name.length with
    | some (text, n) => text ++ name.drop n ++ semicolonText
    | none => '&' :: name ++ semicolonText

/-- The reference after an ampersand in a value: its text, and how many characters it takes. -/
def referenceInValue? (cs : Text) : Option (Text × Nat) :=
  let semicolonAt (n : Nat) : Nat := if (cs.drop n).head? == some ';' then 1 else 0
  match cs with
  | '#' :: rest =>
    let digits := rest.takeWhile Char.isDigit
    if !digits.isEmpty then
      let n := 1 + digits.length
      some (numberedInValue (decimalNumber digits), n + semicolonAt n)
    else match rest with
      | x :: rest =>
        let digits := rest.takeWhile isHexDigit
        if (x == 'x' || x == 'X') && !digits.isEmpty then
          let n := 2 + digits.length
          some (numberedInValue (hexNumber digits), n + semicolonAt n)
        else none
      | [] => none
  | _ =>
    let name := (cs.take maxNameLength).takeWhile isNameChar
    if name.isEmpty then none
    else
      let semicolon := semicolonAt name.length
      some (namedInValue name (semicolon == 1), name.length + semicolon)

/-- An attribute value with its references resolved. -/
def unescape : Text → Text
  | [] => []
  | c :: cs =>
    if c == '&' then
      match referenceInValue? cs with
      | some (text, n) => text ++ unescape (cs.drop n)
      | none => '&' :: unescape cs
    else c :: unescape cs
termination_by s => s.length
decreasing_by all_goals simp +arith

end UiToolkit.Html
