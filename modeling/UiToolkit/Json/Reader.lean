import UiToolkit.Json.Basic
import UiToolkit.Text.Letter

/-!
# Reading JSON

A reader for JSON texts, to which `NaN`, `Infinity` and `-Infinity` are added. What is wrong with a text is reported together with the place, counted in characters. A repeated member of an object keeps its first place and takes its last value.
-/

namespace UiToolkit

namespace Json

inductive Problem where
  | value
  | memberName
  | colon
  | comma
  | unterminatedString
  | controlCharacter
  | escape
  | unicodeEscape
  | extraData
  | byteOrderMark
  /-- A whole number too long to be read. -/
  | longInteger
  deriving DecidableEq

/-- What is wrong, and the text from the place where it is wrong. -/
structure Failure where
  problem : Problem
  rest : Text
  deriving DecidableEq

/-- A value read from the start of `s`, and what follows it. -/
abbrev Step (α : Type) (s : Text) : Type := Except Failure (α × { r : Text // r.length < s.length })

namespace Reader

open Text

def isSpace (c : Char) : Bool := c == ' ' || c == '\t' || c == '\n' || c == '\r'

def skipSpace (s : Text) : Text := s.dropWhile isSpace

theorem length_skipSpace (s : Text) : (skipSpace s).length ≤ s.length :=
  (List.dropWhile_sublist _).length_le

def maxDigits : Nat := 4300

def hexDigits? (s : Text) : Option Nat :=
  let digits := s.take 4
  if digits.length = 4 && digits.all isHexDigit then some (digits.foldl (fun n d => 16 * n + hexValue d) 0)
  else none

def isHighSurrogate (n : Nat) : Bool := 0xD800 ≤ n && n ≤ 0xDBFF

def isLowSurrogate (n : Nat) : Bool := 0xDC00 ≤ n && n ≤ 0xDFFF

/-- The character of a code unit. Half of a pair stands for no character, and all halves are read as the same one. So two strings that differ in such halves alone, names of members among them, are not told apart. -/
def unitChar (n : Nat) : Char := if isHighSurrogate n || isLowSurrogate n then '\uFFFD' else Char.ofNat n

/--
The character that an escape names by its code, and how many characters after the `u` it takes. At least one character has to follow the digits, and a pair is looked for only where one more follows it.
-/
def unicodeEscape (s : Text) : Except Failure (Char × Nat) :=
  let failure (s : Text) : Failure := ⟨.unicodeEscape, 'u' :: s⟩
  if s.length ≤ 4 then .error (failure s)
  else match hexDigits? s with
    | none => .error (failure s)
    | some high =>
      match s.drop 4 with
      | '\\' :: 'u' :: t =>
        if isHighSurrogate high && 4 < t.length then
          match hexDigits? t with
          | none => .error (failure t)
          | some low =>
            if isLowSurrogate low then .ok (Char.ofNat (0x10000 + (high - 0xD800) * 0x400 + (low - 0xDC00)), 10)
            else .ok (unitChar high, 4)
        else .ok (unitChar high, 4)
      | _ => .ok (unitChar high, 4)

def escapedChar? (c : Char) : Option Char :=
  if c == '"' || c == '\\' || c == '/' then some c
  else if c == 'b' then some '\x08'
  else if c == 'f' then some '\x0c'
  else if c == 'n' then some '\n'
  else if c == 'r' then some '\r'
  else if c == 't' then some '\t'
  else none

/-- The rest of a string whose opening quote begins `start`. -/
def stringRest (start : Text) (s : Text) : Step Text s :=
  match s with
  | [] => .error ⟨.unterminatedString, start⟩
  | ['\\'] => .error ⟨.unterminatedString, start⟩
  | '"' :: cs => .ok ([], ⟨cs, by simp⟩)
  | '\\' :: 'u' :: cs =>
    match unicodeEscape cs with
    | .error e => .error e
    | .ok (c, n) =>
      match stringRest start (cs.drop n) with
      | .error e => .error e
      | .ok (t, ⟨r, h⟩) => .ok (c :: t, ⟨r, by simp at h ⊢; omega⟩)
  | '\\' :: e :: cs =>
    match escapedChar? e with
    | none => .error ⟨.escape, '\\' :: e :: cs⟩
    | some c =>
      match stringRest start cs with
      | .error e => .error e
      | .ok (t, ⟨r, h⟩) => .ok (c :: t, ⟨r, by simp; omega⟩)
  | c :: cs =>
    if c.toNat < 32 then .error ⟨.controlCharacter, c :: cs⟩
    else
      match stringRest start cs with
      | .error e => .error e
      | .ok (t, ⟨r, h⟩) => .ok (c :: t, ⟨r, by simp; omega⟩)
termination_by s.length
decreasing_by all_goals simp +arith

def digitExtent (s : Text) : Nat := (s.takeWhile Char.isDigit).length

/-- The length of the whole part, without sign, at the start of `s`; zero where there is none. -/
def wholeExtent (s : Text) : Nat :=
  match s with
  | '0' :: _ => 1
  | _ => digitExtent s

def fractionExtent (s : Text) : Nat :=
  match s with
  | '.' :: cs => let n := digitExtent cs; if n = 0 then 0 else n + 1
  | _ => 0

def exponentExtent (s : Text) : Nat :=
  match s with
  | e :: cs =>
    if e == 'e' || e == 'E' then
      let sign := match cs with
        | c :: _ => if c == '+' || c == '-' then 1 else 0
        | [] => 0
      let n := digitExtent (cs.drop sign)
      if n = 0 then 0 else 1 + sign + n
    else 0
  | [] => 0

def exponentValue (s : Text) : Int :=
  match s.drop 1 with
  | '-' :: ds => -(Numeral.digitsValue ds : Int)
  | ds => Numeral.digitsValue ds

def number (s : Text) : Step Json s :=
  let sign := match s with
    | '-' :: _ => 1
    | _ => 0
  let whole := wholeExtent (s.drop sign)
  if h : whole = 0 ∨ s.length = 0 then .error ⟨.value, s⟩
  else
    let fraction := fractionExtent (s.drop (sign + whole))
    let exponent := exponentExtent (s.drop (sign + whole + fraction))
    let n := sign + whole + fraction + exponent
    let rest : { r : Text // r.length < s.length } := ⟨s.drop n, by simp; omega⟩
    if fraction = 0 ∧ exponent = 0 then
      if maxDigits < whole then .error ⟨.longInteger, s⟩
      else
        let magnitude : Int := Numeral.digitsValue ((s.drop sign).take whole)
        .ok (.int (if sign = 1 then -magnitude else magnitude), rest)
    else
      let d := Decimal.ofNumeral (s.take (sign + whole + fraction))
      let e := if exponent = 0 then 0 else exponentValue (s.drop (sign + whole + fraction) |>.take exponent)
      .ok (.float (Binary64.ofDecimal ⟨d.negative, d.coefficient, d.exponent + e⟩), rest)

/-- Values that are written as a word. -/
def wordValue? (s : Text) : Option (Nat × Json) :=
  if "null".toList.isPrefixOf s then some (4, .null)
  else if "true".toList.isPrefixOf s then some (4, .bool true)
  else if "false".toList.isPrefixOf s then some (5, .bool false)
  else if "NaN".toList.isPrefixOf s then some (3, .float .nan)
  else if "Infinity".toList.isPrefixOf s then some (8, .float (.infinite false))
  else if "-Infinity".toList.isPrefixOf s then some (9, .float (.infinite true))
  else none

mutual

/-- A value at any depth of nesting. A reader with a bounded stack gives up about a thousand levels down; that fault is left out, so what is said about files of settings is about those that stay above it. -/
def value (s : Text) : Step Json s :=
  match s with
  | [] => .error ⟨.value, []⟩
  | '"' :: cs =>
    match stringRest ('"' :: cs) cs with
    | .error e => .error e
    | .ok (t, ⟨r, h⟩) => .ok (.string t, ⟨r, by simp; omega⟩)
  | '[' :: cs =>
    have hs := length_skipSpace cs
    match h : skipSpace cs with
    | ']' :: r => .ok (.array [], ⟨r, by rw [h] at hs; simp at hs ⊢; omega⟩)
    | r =>
      match items r with
      | .error e => .error e
      | .ok (js, ⟨r', h'⟩) => .ok (.array js, ⟨r', by rw [h] at hs; simp; omega⟩)
  | '\x7b' :: cs =>
    have hs := length_skipSpace cs
    match h : skipSpace cs with
    | '\x7d' :: r => .ok (.object [], ⟨r, by rw [h] at hs; simp at hs ⊢; omega⟩)
    | r =>
      match members r with
      | .error e => .error e
      | .ok (ms, ⟨r', h'⟩) => .ok (.object (Entries.ofList ms), ⟨r', by rw [h] at hs; simp; omega⟩)
  | c :: cs =>
    match wordValue? (c :: cs) with
    | some (n, j) => .ok (j, ⟨cs.drop (n - 1), by simp +arith⟩)
    | none => number (c :: cs)
termination_by 2 * s.length
decreasing_by all_goals (simp_all; try omega)

/-- The items of an array that has at least one more, through the closing bracket. -/
def items (s : Text) : Step (List Json) s :=
  match value s with
  | .error e => .error e
  | .ok (j, ⟨r, h⟩) =>
    have hs := length_skipSpace r
    match h' : skipSpace r with
    | ']' :: t => .ok ([j], ⟨t, by rw [h'] at hs; simp at hs; omega⟩)
    | ',' :: t =>
      have ht := length_skipSpace t
      match items (skipSpace t) with
      | .error e => .error e
      | .ok (js, ⟨u, hu⟩) => .ok (j :: js, ⟨u, by rw [h'] at hs; simp at hs; omega⟩)
    | t => .error ⟨.comma, t⟩
termination_by 2 * s.length + 1
decreasing_by all_goals (simp_all; try omega)

/-- The members of an object that has at least one more, through the closing brace. -/
def members (s : Text) : Step (List (Text × Json)) s :=
  match s with
  | '"' :: cs =>
    match stringRest ('"' :: cs) cs with
    | .error e => .error e
    | .ok (name, ⟨r, h⟩) =>
      have hr := length_skipSpace r
      match h' : skipSpace r with
      | ':' :: t =>
        have ht := length_skipSpace t
        match value (skipSpace t) with
        | .error e => .error e
        | .ok (j, ⟨u, hu⟩) =>
          have hu' := length_skipSpace u
          match h'' : skipSpace u with
          | '\x7d' :: v =>
            .ok ([(name, j)], ⟨v, by rw [h'] at hr; rw [h''] at hu'; simp at *; omega⟩)
          | ',' :: v =>
            have hv := length_skipSpace v
            match members (skipSpace v) with
            | .error e => .error e
            | .ok (ms, ⟨w, hw⟩) =>
              .ok ((name, j) :: ms, ⟨w, by rw [h'] at hr; rw [h''] at hu'; simp at *; omega⟩)
          | v => .error ⟨.comma, v⟩
      | t => .error ⟨.colon, t⟩
  | s => .error ⟨.memberName, s⟩
termination_by 2 * s.length + 1
decreasing_by all_goals (simp_all; try omega)

end

end Reader

def parse (s : Text) : Except Failure Json :=
  if s.head? == some '\uFEFF' then .error ⟨.byteOrderMark, s⟩
  else
    match Reader.value (Reader.skipSpace s) with
    | .error e => .error e
    | .ok (j, ⟨r, _⟩) =>
      let r := Reader.skipSpace r
      if r.isEmpty then .ok j else .error ⟨.extraData, r⟩

def Problem.message : Problem → Text
  | .value => "Expecting value"
  | .memberName => "Expecting property name enclosed in double quotes"
  | .colon => "Expecting ':' delimiter"
  | .comma => "Expecting ',' delimiter"
  | .unterminatedString => "Unterminated string starting at"
  | .controlCharacter => "Invalid control character at"
  | .escape => "Invalid \\escape"
  | .unicodeEscape => "Invalid \\uXXXX escape"
  | .extraData => "Extra data"
  | .byteOrderMark => "Unexpected UTF-8 BOM (decode using utf-8-sig)"
  | .longInteger => "Exceeds the limit for integer string conversion"

/-- The message for a failure in `source`, with the line, the column and the offset of its place. -/
def Failure.message (source : Text) (e : Failure) : Text :=
  let position := source.length - e.rest.length
  let read := source.take position
  let line := read.count '\n' + 1
  let column := (read.reverse.takeWhile (· ≠ '\n')).length + 1
  e.problem.message ++ ": line " ++ Text.ofNat line ++ " column " ++ Text.ofNat column ++ " (char "
    ++ Text.ofNat position ++ ")"

end Json

end UiToolkit
