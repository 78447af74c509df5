import UiToolkit.Text.Blank
import UiToolkit.Text.Letter

/-!
# Selector segments

The text of one selector is cut from left to right into typed segments. The cut never fails: a character that begins nothing known is a segment of its own, and brackets that are never closed run to the end of the text.
-/

namespace UiToolkit

inductive SegmentKind where
  | universal
  | typeName
  | className
  | id
  | pseudoClass
  | pseudoElement
  | attribute
  | combinator
  | whitespace
  | unknown
  deriving DecidableEq

def SegmentKind.name : SegmentKind → Text
  | .universal => "UNIVERSAL"
  | .typeName => "TYPE"
  | .className => "CLASS"
  | .id => "ID"
  | .pseudoClass => "PSEUDO_CLASS"
  | .pseudoElement => "PSEUDO_ELEMENT"
  | .attribute => "ATTRIBUTE"
  | .combinator => "COMBINATOR"
  | .whitespace => "WHITESPACE"
  | .unknown => "UNKNOWN"

structure Segment where
  kind : SegmentKind
  text : Text
  deriving DecidableEq

namespace Segment

open Text

/-- Blanks, the descendant combinator, separate compounds just as explicit combinators do. -/
def isSeparator (s : Segment) : Bool := s.kind == .combinator || s.kind == .whitespace

def isPseudo (s : Segment) : Bool := s.kind == .pseudoClass || s.kind == .pseudoElement

def isNameChar (c : Char) : Bool := isAlphanumeric c || c == '-' || c == '_' || c == '\\'

/-- Type names may also hold the namespace bar, and a point in front of a digit. -/
def isTypeChar (c : Char) : Bool := isNameChar c || c == '|'

def isCombinator (c : Char) : Bool := c == '>' || c == '+' || c == '~'

def startsWithDigit : Text → Bool
  | [] => false
  | c :: _ => isDigit c

/-- The number of characters from here that continue a type name. -/
def typeExtent : Text → Nat
  | [] => 0
  | c :: cs => if isTypeChar c || (c == '.' && startsWithDigit cs) then typeExtent cs + 1 else 0

/-- The number of characters from here through the closing bracket of a group in which `depth` inner groups are open. -/
def groupExtent : Nat → Text → Nat
  | _, [] => 0
  | depth, c :: cs =>
    if c == '(' then groupExtent (depth + 1) cs + 1
    else if c == ')' then
      match depth with
      | 0 => 1
      | depth + 1 => groupExtent depth cs + 1
    else groupExtent depth cs + 1

/-- The number of characters from here through the closing bracket of an attribute, a backslash hiding the next character. -/
def attributeExtent : Text → Nat
  | [] => 0
  | ']' :: _ => 1
  | '\\' :: _ :: cs => attributeExtent cs + 2
  | _ :: cs => attributeExtent cs + 1

/-- A pseudo name, with its arguments if a group follows. -/
def pseudoExtent (cs : Text) : Nat :=
  let name := (cs.takeWhile isNameChar).length
  match cs.drop name with
  | '(' :: rest => name + 1 + groupExtent 0 rest
  | _ => name

/-- The kind of the segment that `c` begins, and how many of the characters after it belong to it. -/
def opening (c : Char) (cs : Text) : SegmentKind × Nat :=
  if isBlank c then (.whitespace, (cs.takeWhile isBlank).length)
  else if isCombinator c then (.combinator, 0)
  else if c == '*' then (.universal, 0)
  else if c == '.' then (.className, (cs.takeWhile isNameChar).length)
  else if c == '#' then (.id, (cs.takeWhile isNameChar).length)
  else if c == ':' then
    match cs with
    | ':' :: rest => (.pseudoElement, pseudoExtent rest + 1)
    | _ => (.pseudoClass, pseudoExtent cs)
  else if c == '[' then (.attribute, attributeExtent cs)
  else if isTypeChar c then (.typeName, typeExtent cs)
  else (.unknown, 0)

/-- The segments of a selector without commas. -/
def scan : Text → List Segment
  | [] => []
  | c :: cs =>
    let (kind, n) := opening c cs
    ⟨kind, c :: cs.take n⟩ :: scan (cs.drop n)
termination_by s => s.length
decreasing_by simp +arith

end Segment

end UiToolkit
