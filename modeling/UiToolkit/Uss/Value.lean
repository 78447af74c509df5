import UiToolkit.Config
import UiToolkit.Text.Nesting
import UiToolkit.Uss.Pixels

/-!
# Values in USS

A value is rewritten in passes over its text: a leading point gets a zero, viewport units become percentages, relative lengths become pixels. A few properties take less than the whole value or a different one. An empty answer means that the declaration is to be left out.
-/

namespace UiToolkit

namespace Value

open Text

def opensNumber (c : Char) : Bool := isBlank c || c == ',' || c == '('

/-- Recognizes a point that begins a number. -/
def readLeadingPoint : Piece.Reader Unit := fun before c cs =>
  if c == '.' && before.all opensNumber && (cs.head?.any isDecimal) then some (0, ()) else none

def fillLeadingPoints (value : Text) : Text := Piece.rewrite (fun _ => "0.") (Piece.scan readLeadingPoint value)

/-- Recognizes the unit `vw` or `vh` directly after a digit. -/
def readViewport : Piece.Reader Unit := fun before c cs =>
  match cs with
  | d :: rest =>
    if before.any isDecimal && c.toLower == 'v' && (d.toLower == 'w' || d.toLower == 'h') && Pixels.endsWord rest then
      some (1, ())
    else none
  | [] => none

def viewportToPercent (value : Text) : Text := Piece.rewrite (fun _ => "%") (Piece.scan readViewport value)

/-- The passes that hold for every property. -/
def normalize (value : Text) : Text := viewportToPercent (fillLeadingPoints value)

def hasGradient : Text → Bool
  | [] => false
  | c :: cs =>
    (startsWithAnyCase "gradient" (c :: cs) && ((c :: cs).drop 8 |>.dropWhile isBlank).head? == some '(')
      || hasGradient cs

/-- Properties that take one value where CSS allows a list. -/
def singleValued : List Text :=
  ["-unity-font", "-unity-font-definition", "background-image", "text-shadow", "cursor"]

def gradientFree : List Text := ["background-image", "background-color"]

/-- The names `border-radius` and `border-…-radius`; a line feed may follow. -/
def isCornerRadius (name : Text) : Bool :=
  let name := if name.getLast? == some '\n' then name.dropLast else name
  match cut (· == '-') name with
  | border :: parts =>
    border == "border".toList && parts.getLast? == some "radius".toList
      && parts.all fun part => !part.isEmpty && part.all fun c => 'a' ≤ c && c ≤ 'z'
  | [] => false

def firstWord (value : Text) : Text := (words value).headD value

/-- Twice a length in pixels, rounded to whole pixels; any other value stays as it is. -/
def doublePixels (value : Text) : Except RoundingError Text :=
  match Numeral.split? (trim value) with
  | some (numeral, unit) =>
    if asciiLower unit == "px".toList then do
      let pixels ← ((Decimal.ofNumeral numeral).scale 2).round
      return Text.ofInt pixels ++ "px"
    else .ok value
  | none => .ok value

/-- The value of a property in USS; `none` for the configuration knows no fonts at all. -/
def translate (config : Option Config) (property value : Text) : Except RoundingError Text :=
  if isBlankText value then .ok value
  else
    let name := lower property
    let text := normalize value
    if gradientFree.contains name && hasGradient text then .ok "none"
    else
      let text := if singleValued.contains name then trim (firstTopLevel ',' text) else text
      if name == "-unity-font".toList then .ok ((config.map (·.fontPath text)).getD [])
      else if name == "-unity-font-definition".toList then .ok text
      else do
        let text ← Pixels.convertEms (if isCornerRadius name then firstWord text else text)
        if name == "letter-spacing".toList then doublePixels text else return text

end Value

end UiToolkit
