import UiToolkit.Css.Node

/-!
# Writing CSS nodes

Nodes are written so that they read back as the same nodes: names and strings are escaped where needed, and an empty comment is put between neighbours that would run together. A string or an address cut off by the end of the text stays open.
-/

namespace UiToolkit.Css

open Text

def hexText (n : Nat) : Text := (Nat.toDigits 16 n).map Char.toUpper

/-- Line ends are escaped by their code. -/
def escapedLineEnd? (c : Char) : Option Text :=
  if c == '\n' then some "\\A " else if c == '\r' then some "\\D " else if c == '\x0c' then some "\\C " else none

def escapeNameChar (c : Char) : Text :=
  match escapedLineEnd? c with
  | some e => e
  | none => if isNameChar c then [c] else ['\\', c]

def nameText (name : Text) : Text := name.flatMap escapeNameChar

def escapeNameStart (c : Char) : Text :=
  match escapedLineEnd? c with
  | some e => e
  | none => if isNameStart c then [c] else if c.isDigit then '\\' :: hexText c.toNat ++ [' '] else ['\\', c]

/-- A name that has to read as an identifier. -/
def identText (name : Text) : Text :=
  match name with
  | [] => []
  | ['-'] => "\\-"
  | '-' :: '-' :: rest => "--" ++ nameText rest
  | '-' :: c :: rest => '-' :: escapeNameStart c ++ nameText rest
  | c :: rest => escapeNameStart c ++ nameText rest

/-- A unit that would read as an exponent has its first letter escaped. -/
def unitText (unit : Text) : Text :=
  match unit with
  | [] => []
  | e :: rest =>
    if (e == 'e' || e == 'E') && (rest.isEmpty || rest.head? == some '-') then "\\65 " ++ nameText rest
    else identText unit

def escapeStringChar (c : Char) : Text :=
  match escapedLineEnd? c with
  | some e => e
  | none => if c == '"' || c == '\\' then ['\\', c] else [c]

def escapeUrlChar (c : Char) : Text :=
  match escapedLineEnd? c with
  | some e => e
  | none =>
    if c == '\t' then "\\9 "
    else if c == '\'' || c == '"' || c == '\\' || c == ' ' || c == '(' || c == ')' then ['\\', c]
    else [c]

def rangeText (first last : Nat) : Text :=
  "U+" ++ hexText first ++ (if first = last then [] else '-' :: hexText last)

namespace Lexeme

def toText : Lexeme → Text
  | .space text => text
  | .ident name => identText name
  | .call name => identText name ++ ['(']
  | .number text => text
  | .percentage digits => digits ++ ['%']
  | .dimension digits unit => digits ++ unitText unit
  | .atKeyword name => '@' :: identText name
  | .hash name isIdent => '#' :: (if isIdent then identText name else nameText name)
  | .string value closed => '"' :: value.flatMap escapeStringChar ++ (if closed then ['"'] else [])
  | .badString => "\"[bad string]\n"
  | .url value closed => "url(" ++ value.flatMap escapeUrlChar ++ (if closed then [')'] else [])
  | .badUrl => "url([bad url])"
  | .unicodeRange first last => rangeText first last
  | .opener bracket => [bracket]
  | .closer bracket => [bracket]
  | .literal text => text

end Lexeme

namespace Node

/-- What counts about a node next to another one. -/
inductive Shape where
  | ident
  | call
  | number
  | percentage
  | dimension
  | atKeyword
  | hash
  | url
  | unicodeRange
  | roundBlock
  | space (startsLine : Bool)
  | literal (text : Text)
  | other
  deriving DecidableEq

def shape : Node → Shape
  | .leaf (.space text) => .space (text.head? == some '\n')
  | .leaf (.ident _) => .ident
  | .leaf (.number _) => .number
  | .leaf (.percentage _) => .percentage
  | .leaf (.dimension _ _) => .dimension
  | .leaf (.atKeyword _) => .atKeyword
  | .leaf (.hash _ _) => .hash
  | .leaf (.url _ _) => .url
  | .leaf (.unicodeRange _ _) => .unicodeRange
  | .leaf (.literal text) => .literal text
  | .leaf _ => .other
  | .block .round _ => .roundBlock
  | .block _ _ => .other
  | .call _ _ => .call

namespace Shape

def lit (text : String) : Shape := .literal text

def isName (s : Shape) : Bool := s == .ident || s == .atKeyword || s == .hash || s == .dimension

def isWordStart (s : Shape) : Bool := s == .ident || s == .call || s == .url

def isNumeric (s : Shape) : Bool := s == .number || s == .percentage || s == .dimension

/-- Whether two neighbours would run together. -/
def runsInto (a b : Shape) : Bool :=
  ((a.isName || a == lit "#" || a == lit "-" || a == .number) && (b.isWordStart || b.isNumeric || b == .unicodeRange))
    || (a.isName && (b == lit "-" || b == lit "-->"))
    || (a == lit "@" && (b.isWordStart || b == .unicodeRange || b == lit "-"))
    || ((a == .unicodeRange || a == lit "." || a == lit "+") && b.isNumeric)
    || (a == .unicodeRange && (b == .ident || b == .call || b == lit "?"))
    || ((a == lit "$" || a == lit "*" || a == lit "^" || a == lit "~" || a == lit "|") && b == lit "=")
    || (a == .ident && b == .roundBlock)
    || (a == lit "|" && b == lit "|")
    || (a == lit "/" && b == lit "*")

/-- What has to stand between two neighbours. -/
def separator (a b : Shape) : Text :=
  if a.runsInto b then "/**/"
  else if a == lit "\\" && b ≠ .space true then ['\n']
  else []

end Shape

mutual

/-- Whether the end of the text cuts off a string at the very end of the arguments, or of the last call in them. -/
def endsCut : List Node → Bool
  | [] => false
  | [node] => isCut node
  | _ :: nodes => endsCut nodes

def isCut : Node → Bool
  | .leaf (.string _ closed) => !closed
  | .call _ arguments => endsCut arguments
  | _ => false

end

mutual

def toText : Node → Text
  | .leaf lexeme => lexeme.toText
  | .block bracket content => bracket.opener :: listText none content ++ [bracket.closer]
  | .call name arguments =>
    identText name ++ '(' :: listText none arguments ++ (if endsCut arguments then [] else [')'])

/-- Nodes after a neighbour of the given shape, if there is one. -/
def listText (before : Option Shape) : List Node → Text
  | [] => []
  | node :: nodes =>
    let separator := match before with
      | some s => s.separator node.shape
      | none => []
    separator ++ toText node ++ listText (some node.shape) nodes

end

def print (nodes : List Node) : Text := listText none nodes

end Node

end UiToolkit.Css
