import UiToolkit.Text.Letter
import UiToolkit.Text.Utf8

/-!
# CSS lexemes

The characters of a style sheet are read as lexemes, from left to right and without looking at brackets around them. Comments leave no lexeme. Names, strings and addresses are kept with their escapes resolved, numbers as they are written.
-/

namespace UiToolkit.Css

open Text

inductive Lexeme where
  | space (text : Text)
  | ident (name : Text)
  /-- A name with the bracket that opens its arguments. -/
  | call (name : Text)
  | number (text : Text)
  | percentage (number : Text)
  | dimension (number unit : Text)
  | atKeyword (name : Text)
  | hash (name : Text) (isIdent : Bool)
  /-- A string, closed by its quote or cut off by the end of the text. -/
  | string (value : Text) (closed : Bool)
  | badString
  | url (value : Text) (closed : Bool)
  | badUrl
  | unicodeRange (first last : Nat)
  | opener (bracket : Char)
  | closer (bracket : Char)
  | literal (text : Text)
  deriving DecidableEq

def isSpace (c : Char) : Bool := c == ' ' || c == '\n' || c == '\t'

def isNameStart (c : Char) : Bool := c.isAlpha || c == '_' || 0x7F < c.toNat

def isNameChar (c : Char) : Bool := isNameStart c || c.isDigit || c == '-'

/-- Whether a backslash in front of `cs` begins an escape. -/
def escapes (cs : Text) : Bool := cs.head? ≠ some '\n'

/-- Zero, surrogates and numbers above 10FFFF stand for the replacement character. -/
def codePoint (n : Nat) : Char := if n = 0 then '\uFFFD' else if n.isValidChar then Char.ofNat n else '\uFFFD'

/-- The character that an escape stands for, and the number of characters it takes after the backslash. -/
def escape (cs : Text) : Char × Nat :=
  let digits := (cs.take 6).takeWhile isHexDigit
  if digits.isEmpty then
    match cs with
    | [] => ('\uFFFD', 0)
    | c :: _ => (c, 1)
  else
    let space := if (cs.drop digits.length).head?.any isSpace then 1 else 0
    (codePoint (digits.foldl (fun n d => 16 * n + hexValue d) 0), digits.length + space)

/-- The longest name at the start of the text, and its length there. -/
def name : Text → Text × Nat
  | [] => ([], 0)
  | c :: cs =>
    if isNameChar c then
      let (rest, n) := name cs
      (c :: rest, n + 1)
    else if c == '\\' && escapes cs then
      let (e, k) := escape cs
      let (rest, n) := name (cs.drop k)
      (e :: rest, n + k + 1)
    else ([], 0)
termination_by s => s.length
decreasing_by all_goals simp +arith

/-- Whether the text starts with an identifier. -/
def startsIdent : Text → Bool
  | [] => false
  | '-' :: cs =>
    match cs with
    | [] => false
    | c :: rest => isNameStart c || c == '-' || (c == '\\' && escapes rest)
  | c :: cs => isNameStart c || (c == '\\' && escapes cs)

/-- How a string or an address ends: by its closer, by the end of the text, or not as one. -/
inductive Ending where
  | closed
  | cut
  | bad
  deriving DecidableEq

/-- What follows the opening `quote`: the value, its ending, and the length. A line feed spoils a string and is not part of it. -/
def stringRest (quote : Char) : Text → Text × Ending × Nat
  | [] => ([], .cut, 0)
  | ['\\'] => ([], .cut, 1)
  | '\\' :: '\n' :: cs =>
    let (value, ending, n) := stringRest quote cs
    (value, ending, n + 2)
  | c :: cs =>
    if c == quote then ([], .closed, 1)
    else if c == '\\' then
      let (e, k) := escape cs
      let (value, ending, n) := stringRest quote (cs.drop k)
      (e :: value, ending, n + k + 1)
    else if c == '\n' then ([], .bad, 0)
    else
      let (value, ending, n) := stringRest quote cs
      (c :: value, ending, n + 1)
termination_by s => s.length
decreasing_by all_goals simp +arith

def isForbiddenInUrl (c : Char) : Bool :=
  let n := c.toNat
  c == '"' || c == '\'' || c == '(' || n ≤ 8 || n == 0xB || (0xE ≤ n && n ≤ 0x1F) || n == 0x7F

/-- An address without quotes: the value, its ending, and the length, which takes in what spoils it. -/
def urlRest : Text → Text × Ending × Nat
  | [] => ([], .cut, 0)
  | c :: cs =>
    if c == ')' then ([], .closed, 1)
    else if isSpace c then
      let blanks := (cs.takeWhile isSpace).length
      match cs.drop blanks with
      | [] => ([], .cut, blanks + 1)
      | ')' :: _ => ([], .closed, blanks + 2)
      | _ => ([], .bad, blanks + 1)
    else if c == '\\' && escapes cs then
      let (e, k) := escape cs
      let (value, ending, n) := urlRest (cs.drop k)
      (e :: value, ending, n + k + 1)
    else if isForbiddenInUrl c then ([], .bad, 1)
    else
      let (value, ending, n) := urlRest cs
      (c :: value, ending, n + 1)
termination_by s => s.length
decreasing_by all_goals simp +arith

/-- The length through the bracket that closes a bad address, escaped brackets not counting. -/
def badUrlExtent : Text → Nat
  | [] => 0
  | '\\' :: ')' :: cs => badUrlExtent cs + 2
  | c :: cs => if c == ')' then 1 else badUrlExtent cs + 1

/-- The lexeme for an address whose opening bracket has been read, and its length. -/
def urlLexeme (cs : Text) : Lexeme × Nat :=
  let blanks := (cs.takeWhile isSpace).length
  let body := cs.drop blanks
  let (value, ending, n) := urlRest body
  match ending with
  | .closed => (.url value true, blanks + n)
  | .cut => (.url value false, blanks + n)
  | .bad => (.badUrl, blanks + n + badUrlExtent (body.drop n))

/-- The lexeme for a string whose opening quote has been read, and its length. -/
def stringLexeme (quote : Char) (cs : Text) : Lexeme × Nat :=
  let (value, ending, n) := stringRest quote cs
  match ending with
  | .closed => (.string value true, n)
  | .cut => (.string value false, n)
  | .bad => (.badString, n)

def digitExtent (s : Text) : Nat := (s.takeWhile Char.isDigit).length

def exponentExtent : Text → Nat
  | [] => 0
  | e :: cs =>
    if e == 'e' || e == 'E' then
      let sign := if cs.head?.any fun c => c == '+' || c == '-' then 1 else 0
      let digits := digitExtent (cs.drop sign)
      if digits = 0 then 0 else 1 + sign + digits
    else 0

/-- The length of the number at the start of the text, zero if there is none. -/
def numberExtent (s : Text) : Nat :=
  let sign := if s.head?.any fun c => c == '+' || c == '-' then 1 else 0
  let whole := digitExtent (s.drop sign)
  let fraction := match s.drop (sign + whole) with
    | '.' :: rest => digitExtent rest
    | _ => 0
  let mantissa := if fraction = 0 then whole else whole + 1 + fraction
  if mantissa = 0 then 0 else sign + mantissa + exponentExtent (s.drop (sign + mantissa))

def hexNumber (digits : Text) : Nat := digits.foldl (fun n d => 16 * n + hexValue d) 0

/-- A range of code points after `U+`, given by a pattern with question marks or by its ends, and its length. -/
def unicodeRange (cs : Text) : Lexeme × Nat :=
  let digits := (cs.take 6).takeWhile isHexDigit
  let marks := ((cs.take 6).drop digits.length).takeWhile (· == '?')
  let length := digits.length + marks.length
  if !marks.isEmpty then
    (.unicodeRange (hexNumber (digits ++ marks.map fun _ => '0')) (hexNumber (digits ++ marks.map fun _ => 'F')), length)
  else match cs.drop length with
    | '-' :: rest =>
      let last := (rest.take 6).takeWhile isHexDigit
      if last.isEmpty then (.unicodeRange (hexNumber digits) (hexNumber digits), length)
      else (.unicodeRange (hexNumber digits) (hexNumber last), length + 1 + last.length)
    | _ => (.unicodeRange (hexNumber digits) (hexNumber digits), length)

def startsUnicodeRange : Text → Bool
  | u :: '+' :: d :: _ => (u == 'U' || u == 'u') && (isHexDigit d || d == '?')
  | _ => false

/-- The length of a comment after its opening, to the end of the text if it is not closed. -/
def commentExtent : Text → Nat
  | [] => 0
  | '*' :: '/' :: _ => 2
  | _ :: cs => commentExtent cs + 1

/-- An identifier, a call or an address. -/
def identLexeme (s : Text) : Lexeme × Nat :=
  let (n, k) := name s
  match s.drop k with
  | '(' :: rest =>
    let quoted := (rest.dropWhile isSpace).head?.any fun c => c == '"' || c == '\''
    if n.map Char.toLower == "url".toList && !quoted then
      let (lexeme, m) := urlLexeme rest
      (lexeme, k + 1 + m)
    else (.call n, k + 1)
  | _ => (.ident n, k)

def numberLexeme (s : Text) (k : Nat) : Lexeme × Nat :=
  let rest := s.drop k
  if startsIdent rest then
    let (unit, m) := name rest
    (.dimension (s.take k) unit, k + m)
  else if rest.head? == some '%' then (.percentage (s.take k), k + 1)
  else (.number (s.take k), k)

/-- Literals of more than one character that may start here; all others are single characters. -/
def literalExtent (s : Text) : Nat :=
  match s with
  | '<' :: '!' :: '-' :: '-' :: _ => 4
  | '|' :: '|' :: _ => 2
  | c :: '=' :: _ => if c == '~' || c == '|' || c == '^' || c == '$' || c == '*' then 2 else 1
  | _ => 1

def isOpener (c : Char) : Bool := c == '(' || c == '[' || c == '\x7b'

def isCloser (c : Char) : Bool := c == ')' || c == ']' || c == '\x7d'

/-- The lexeme that begins with `c`, if it is no comment, and how many of the characters after `c` it takes. -/
def next (c : Char) (cs : Text) : Option Lexeme × Nat :=
  let s := c :: cs
  let read : Lexeme × Nat → Option Lexeme × Nat := fun (lexeme, n) => (some lexeme, n - 1)
  if isSpace c then read (.space (s.takeWhile isSpace), (s.takeWhile isSpace).length)
  else if startsUnicodeRange s then
    let (lexeme, n) := unicodeRange (cs.drop 1)
    read (lexeme, n + 2)
  else if "-->".toList.isPrefixOf s then read (.literal "-->", 3)
  else if startsIdent s then read (identLexeme s)
  else if numberExtent s ≠ 0 then read (numberLexeme s (numberExtent s))
  else if c == '@' && startsIdent cs then
    let (n, k) := name cs
    read (.atKeyword n, k + 1)
  else if c == '#' && (cs.head?.any isNameChar || (cs.head? == some '\\' && escapes (cs.drop 1))) then
    let (n, k) := name cs
    read (.hash n (startsIdent cs), k + 1)
  else if isOpener c then read (.opener c, 1)
  else if isCloser c then read (.closer c, 1)
  else if c == '"' || c == '\'' then
    let (lexeme, n) := stringLexeme c cs
    read (lexeme, n + 1)
  else if "/*".toList.isPrefixOf s then (none, commentExtent (cs.drop 1) + 1)
  else
    let n := literalExtent s
    read (.literal (s.take n), n)

/-- Line ends become line feeds, as do form feeds, and a null character becomes the replacement character. -/
def preprocess (css : Text) : Text :=
  (unifyLineEnds css).map fun c => if c == '\x0c' then '\n' else if c == '\x00' then '\uFFFD' else c

namespace Lexeme

/-- The lexemes of preprocessed text, each with the line that it begins in. -/
def located (line : Nat) : Text → List (Nat × Lexeme)
  | [] => []
  | c :: cs =>
    let (lexeme, n) := next c cs
    let rest := located (line + (c :: cs.take n).count '\n') (cs.drop n)
    match lexeme with
    | some l => (line, l) :: rest
    | none => rest
termination_by s => s.length
decreasing_by simp +arith

/-- The lexemes of preprocessed text. -/
def scan : Text → List Lexeme
  | [] => []
  | c :: cs =>
    let (lexeme, n) := next c cs
    lexeme.toList ++ scan (cs.drop n)
termination_by s => s.length
decreasing_by simp +arith

def ofCss (css : Text) : List Lexeme := scan (preprocess css)

end Lexeme

end UiToolkit.Css
