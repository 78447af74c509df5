import UiToolkit.Html.Tag

/-!
# Markup events

Markup is read as a sequence of tags, text and hidden parts such as comments. The reading never gives up on a document, with one exception: a marked section of an unknown kind is refused.

It goes in two passes. The first stops where something seems to be incomplete, and the second resumes there, knowing that no more text will come. Where the second pass stops, what is left is text as it stands, or nothing at all inside a script or a style.
-/

namespace UiToolkit.Html

open Text

inductive Event where
  | startTag (name : Text) (attributes : List (Text × Text)) (selfClosing : Bool)
  | endTag (name : Text)
  | text (content : Text)
  | cdata (content : Text)
  /-- A comment, a declaration or a processing instruction. -/
  | hidden (content : Text)

/-- The effect of what begins at a place. -/
inductive Step where
  /-- Events, the raw text element that is open afterwards, and the number of characters after the first one. -/
  | goOn (events : List Event) (raw : Option Text) (n : Nat)
  /-- Text, and the number of characters that are left behind. -/
  | stop (content : Text) (n : Nat)
  | incomplete
  | reject

/-- The parts of `s` around the first `opening`, blanks and `closing` in a row, with the length through them. -/
def splitAtClose? (opening : Text) (closing : Text → Option Nat) : Text → Option (Text × Nat)
  | [] => none
  | c :: cs =>
    let here := if opening.isPrefixOf (c :: cs) then closing ((c :: cs).drop opening.length) else none
    match here with
    | some n => some ([], opening.length + n)
    | none => (splitAtClose? opening closing cs).map fun (before, n) => (c :: before, n + 1)

/-- The length of blanks and the character `c` after them, then of what `more` asks for. -/
def blanksThen (c : Char) (more : Text → Option Nat) (s : Text) : Option Nat :=
  let blanks := (s.takeWhile isBlank).length
  if (s.drop blanks).head? == some c then (more (s.drop (blanks + 1))).map (· + blanks + 1) else none

def atOnce (_ : Text) : Option Nat := some 0

def commentEnd? : Text → Option (Text × Nat) := splitAtClose? "--" (blanksThen '>' atOnce)

def sectionEnd? : Text → Option (Text × Nat) := splitAtClose? "]" (blanksThen ']' (blanksThen '>' atOnce))

def conditionEnd? : Text → Option (Text × Nat) := splitAtClose? "]" (blanksThen '>' atOnce)

def bracketEnd? : Text → Option (Text × Nat) := splitAtClose? ">" atOnce

/-- The step over a hidden part, `skipped` characters after the first one having been read. -/
def hide (raw : Option Text) (skipped : Nat) : Option (Text × Nat) → Step
  | some (content, n) => .goOn [.hidden content] raw (skipped + n)
  | none => .incomplete

def sectionNames : List Text := ["temp", "cdata", "ignore", "include", "rcdata"]

def conditionNames : List Text := ["if", "else", "endif"]

def sectionEvent (content : Text) : Event :=
  if startsWithAnyCase "cdata[" content then .cdata (content.drop 6) else .hidden content

/-- A marked section, given the text after its opening. -/
def markedSection (raw : Option Text) (s : Text) : Step :=
  let isSectionNameChar (c : Char) : Bool := c.isAlphanum || c == '-' || c == '_' || c == '.'
  let name := s.takeWhile isSectionNameChar
  let rest := (s.drop name.length).dropWhile isBlank
  if s.isEmpty then .incomplete
  else if !s.head?.any isAsciiLetter then .reject
  else if rest.isEmpty then .incomplete
  else
    let close := if sectionNames.contains (lower name) then some (sectionEnd? s)
      else if conditionNames.contains (lower name) then some (conditionEnd? s) else none
    match close with
    | none => .reject
    | some none => .incomplete
    | some (some (content, n)) => .goOn [sectionEvent content] raw (n + 2)

/-- A start tag, given the text after its bracket. -/
def startStep (raw : Option Text) (cs : Text) : Step :=
  match startTag cs with
  | (.tag name attributes selfClosing, n) =>
    let opensRaw := !selfClosing && (name == "script".toList || name == "style".toList)
    .goOn [.startTag name attributes selfClosing] (if opensRaw then some name else raw) n
  | (.noTag, n) => .goOn [.text ('<' :: cs.take n)] raw n
  | (.incomplete, _) => .incomplete

/-- An end tag, given the text after its slash. Inside a raw text element only the end of that element counts. -/
def endStep (raw : Option Text) (cs : Text) : Step :=
  match bracketEnd? cs with
  | none => .incomplete
  | some (content, n) =>
    let asText : Step := .goOn [.text ("</" ++ cs.take n)] raw (n + 1)
    match strictEndTag? cs, raw with
    | some name, some open_ => if name == open_ then .goOn [.endTag name] none (n + 1) else asText
    | some name, none => .goOn [.endTag name] none (n + 1)
    | none, some _ => asText
    | none, none =>
      match looseEndTag? cs with
      | some name => .goOn [.endTag name] none (n + 1)
      | none => if content.isEmpty then .goOn [] none (n + 1) else .goOn [.hidden content] none (n + 1)

/-- What begins with an opening bracket, given the text after it. -/
def bracketStep (raw : Option Text) (cs : Text) : Step :=
  match cs with
  | [] => .stop [] 0
  | '/' :: rest => endStep raw rest
  | '?' :: rest => hide raw 1 (bracketEnd? rest)
  | '!' :: '-' :: '-' :: rest => hide raw 3 (commentEnd? rest)
  | '!' :: '[' :: rest => markedSection raw rest
  | '!' :: rest =>
    if startsWithAnyCase "doctype" rest then hide raw 8 (bracketEnd? (rest.drop 7)) else hide raw 1 (bracketEnd? rest)
  | c :: _ => if isAsciiLetter c then startStep raw cs else .goOn [.text ['<']] raw 0

/-- The number of characters that a numeric reference takes after its ampersand and sign, without a semicolon. -/
def numericExtent? (s : Text) : Option Nat :=
  let followed (n : Nat) : Option Nat :=
    if (s.drop n).head?.any (!isHexDigit ·) then some n else none
  let digits := (s.takeWhile Char.isDigit).length
  if digits ≠ 0 then followed digits
  else match s with
    | x :: rest =>
      let digits := (rest.takeWhile isHexDigit).length
      if (x == 'x' || x == 'X') && digits ≠ 0 then followed (digits + 1) else none
    | [] => none

def numericReference (s : Text) : Char :=
  match s with
  | x :: rest => numbered (if x == 'x' || x == 'X' then hexNumber rest else decimalNumber s)
  | [] => numbered 0

def isReferenceNameChar (c : Char) : Bool := c.isAlphanum || c == '-' || c == '.'

/-- The name of a reference, which has to be followed by a character that no name goes on with. -/
def referenceName? (s : Text) : Option Text :=
  let name := s.takeWhile isReferenceNameChar
  if !s.head?.any isAsciiLetter then none
  else if name.length < s.length then some name
  else
    let shorter := (dropEndWhile Char.isAlphanum name).dropLast
    if shorter.isEmpty then none else some shorter

def semicolonAfter (s : Text) (n : Nat) : Nat := if (s.drop n).head? == some ';' then 1 else 0

/-- What begins with an ampersand, given the text after it. -/
def ampersandStep (final : Bool) (raw : Option Text) (cs : Text) : Step :=
  match cs with
  | [] => .stop [] 0
  | '#' :: rest =>
    match numericExtent? rest with
    | some n => .goOn [.text [numericReference (rest.take n)]] raw (n + 1 + semicolonAfter rest n)
    | none => if rest.contains ';' then .stop "&#" 2 else .stop [] 0
  | c :: rest =>
    match referenceName? cs with
    | some name =>
      .goOn [.text ((named? name).getD ('&' :: name))] raw (name.length + semicolonAfter cs name.length)
    | none =>
      if isAsciiLetter c then .stop [] (if final && rest.isEmpty then 1 else 0) else .goOn [.text ['&']] raw 0

/-- Text from a place where something is incomplete: through the next closing bracket, or up to the next opening one, or one character. -/
def incompleteText (c : Char) (cs : Text) : Text :=
  match splitOnce? ">" cs with
  | some (before, _) => c :: before ++ ['>']
  | none => if cs.contains '<' then c :: cs.takeWhile (· ≠ '<') else [c]

/-- Whether an end tag of the raw text element stands here, in any case. -/
def closesRaw (name : Text) (s : Text) : Bool :=
  match s with
  | '<' :: '/' :: rest =>
    let rest := rest.dropWhile isBlank
    startsWithAnyCase name rest && ((rest.drop name.length).dropWhile isBlank).head? == some '>'
  | _ => false

/-- The characters from here to the end tag of the raw text element, if there is one. -/
def rawExtent? (name : Text) : Text → Option Nat
  | [] => none
  | c :: cs => if closesRaw name (c :: cs) then some 0 else (rawExtent? name cs).map (· + 1)

def isPlain (c : Char) : Bool := !(c == '<' || c == '&')

/-- What begins with `c`. -/
def step (final : Bool) (raw : Option Text) (c : Char) (cs : Text) : Step :=
  let s := c :: cs
  match raw with
  | some name =>
    match rawExtent? name s with
    | none => .stop [] 0
    | some 0 => endStep raw (cs.drop 1)
    | some (n + 1) => .goOn [.text (s.take (n + 1))] raw n
  | none =>
    if isPlain c then .goOn [.text (s.takeWhile isPlain)] raw (cs.takeWhile isPlain).length
    else if c == '<' then bracketStep raw cs
    else ampersandStep final raw cs

/-- Where nothing more is read: text as it stands, or nothing inside a raw text element. -/
def remainder (raw : Option Text) (s : Text) : List Event := if raw.isSome || s.isEmpty then [] else [.text s]

def textEvents (content : Text) : List Event := if content.isEmpty then [] else [.text content]

/-- The events from here on, in the first or the final pass; `none` for refused markup. -/
def scan? (final : Bool) (raw : Option Text) : Text → Option (List Event)
  | [] => some []
  | c :: cs =>
    match step final raw c cs with
    | .goOn events raw n => (scan? final raw (cs.drop n)).map (events ++ ·)
    | .stop content n =>
      let rest := (c :: cs).drop n
      if final then some (textEvents content ++ remainder raw rest)
      else (scan? true raw rest).map (textEvents content ++ ·)
    | .incomplete =>
      if final then
        let content := incompleteText c cs
        (scan? final raw (cs.drop (content.length - 1))).map (.text content :: ·)
      else scan? true raw (c :: cs)
    | .reject => none
termination_by s => 2 * s.length + if final then 0 else 1
decreasing_by all_goals (simp_all; try omega)

def events? (html : Text) : Option (List Event) := scan? false none html

end UiToolkit.Html
