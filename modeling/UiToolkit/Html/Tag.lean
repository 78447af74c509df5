import UiToolkit.Html.Entity
import UiToolkit.Text.Blank
import UiToolkit.Text.Case

/-!
# Tags

The lenient reading of a start tag: a name, then attributes with or without values, blanks and slashes between them counting for nothing. An attribute has to follow a blank, a slash or a quote. A quote that is never closed begins no value.
-/

namespace UiToolkit.Html

open Text

def isQuote (c : Char) : Bool := c == '\'' || c == '"'

/-- Characters that end the name of a tag. -/
def endsTagName (c : Char) : Bool :=
  c == '\t' || c == '\n' || c == '\r' || c == '\x0c' || c == ' ' || c == '/' || c == '>' || c == '\x00'

/-- The number of blanks and slashes from here, a slash in front of the closing bracket not included. -/
def slackExtent : Text → Nat
  | [] => 0
  | c :: cs => if isBlank c || (c == '/' && cs.head? ≠ some '>') then slackExtent cs + 1 else 0

def startsAttribute (before c : Char) : Bool :=
  (isQuote before || isBlank before || before == '/') && !(isBlank c || c == '/' || c == '>')

def isAttributeNameChar (c : Char) : Bool := !(isBlank c || c == '/' || c == '=' || c == '>')

def isBareValueChar (c : Char) : Bool := !(isBlank c || c == '>')

/-- The value that follows the name of an attribute, and the length through its end; `none` if no value follows. -/
def attributeValue? (s : Text) : Option (Text × Nat) :=
  let before := (s.takeWhile isBlank).length
  let signs := ((s.drop before).takeWhile (· == '=')).length
  let blanks := ((s.drop (before + signs)).takeWhile isBlank).length
  let start := before + signs + blanks
  let bareFrom (n : Nat) : Option (Text × Nat) :=
    let value := (s.drop n).takeWhile isBareValueChar
    some (value, n + value.length)
  if signs = 0 then none
  else match s.drop start with
    | c :: rest =>
      if !isQuote c then bareFrom start
      else if rest.contains c then
        let value := rest.takeWhile (· ≠ c)
        some (value, start + value.length + 2)
      else if blanks ≠ 0 then some ([], start - 1)
      else if signs = 1 then none
      else bareFrom (start - 1)
    | [] => bareFrom start

/-- The attribute that begins with `c`: its name, its value, and the number of characters after `c`, slack included. -/
def attributeAt (c : Char) (cs : Text) : Text × Text × Nat :=
  let name := cs.takeWhile isAttributeNameChar
  let (value, n) := match attributeValue? (cs.drop name.length) with
    | some (value, n) => (unescape value, name.length + n)
    | none => ([], name.length)
  (lower (c :: name), value, n + slackExtent (cs.drop n))

/-- The attributes from here, where `before` is the character in front, and their length. -/
def attributes (before : Char) : Text → List (Text × Text) × Nat
  | [] => ([], 0)
  | c :: cs =>
    if startsAttribute before c then
      let (name, value, n) := attributeAt c cs
      let (rest, m) := attributes ((cs.take n).getLastD c) (cs.drop n)
      ((name, value) :: rest, n + m + 1)
    else ([], 0)
termination_by s => s.length
decreasing_by simp +arith

/-- What the text after an opening bracket makes. -/
inductive StartTag where
  | tag (name : Text) (attributes : List (Text × Text)) (selfClosing : Bool)
  /-- Something stands in the way of the closing bracket. -/
  | noTag
  | incomplete

/-- The start tag after an opening bracket, where a letter follows, and the number of characters that it takes. -/
def startTag (s : Text) : StartTag × Nat :=
  let name := s.takeWhile (!endsTagName ·)
  let slack := slackExtent (s.drop name.length)
  let k := name.length + slack
  let (attributes, m) := attributes ((s.take k).getLastD ' ') (s.drop k)
  match s.drop (k + m) with
  | '>' :: _ => (.tag (lower name) attributes false, k + m + 1)
  | '/' :: '>' :: _ => (.tag (lower name) attributes true, k + m + 2)
  | [] => (.incomplete, k + m)
  | c :: _ => if c == '=' || isAsciiLetter c then (.incomplete, k + m) else (.noTag, k + m)

def isTagNameChar (c : Char) : Bool := c.isAlphanum || c == '-' || c == '.' || c == ':' || c == '_'

/-- The name in the strict form of an end tag, given the text after its slash. -/
def strictEndTag? (s : Text) : Option Text :=
  let body := s.dropWhile isBlank
  let name := body.takeWhile isTagNameChar
  if body.head?.any isAsciiLetter && ((body.drop name.length).dropWhile isBlank).head? == some '>' then
    some (lower name)
  else none

/-- The name that an end tag in a looser form starts with. -/
def looseEndTag? (s : Text) : Option Text :=
  if s.head?.any isAsciiLetter then some (lower (s.takeWhile (!endsTagName ·))) else none

end UiToolkit.Html
