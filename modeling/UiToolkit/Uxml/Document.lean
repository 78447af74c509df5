import UiToolkit.Config
import UiToolkit.Html.Node
import UiToolkit.Uxml.Element

/-!
# UXML documents

The body of a document as lines of UXML, one tab per level. Elements that stand for labels and buttons carry their text in an attribute and have no content; one without text is left out. Text directly inside a container becomes a label.
-/

namespace UiToolkit.Uxml

open Text

def escapeChar (c : Char) : Text :=
  if c == '&' then "&amp;"
  else if c == '<' then "&lt;"
  else if c == '>' then "&gt;"
  else if c == '"' then "&quot;"
  else if c == '\'' then "&apos;"
  else [c]

def escape (s : Text) : Text := s.flatMap escapeChar

def opening : Text :=
  "<ui:UXML xmlns:ui=\"UnityEngine.UIElements\" xmlns:uie=\"UnityEditor.UIElements\" editor-extension-mode=\"False\">"

def closing : Text := "</ui:UXML>"

/-- Elements that are left out with all that is in them. -/
def droppedElements : List Text := ["script", "style", "head", "meta", "link", "title"]

def droppedAttributes : List Text :=
  ["onclick", "onchange", "onload", "type", "min", "max", "step", "src", "href", "action", "method"]

/-- The name of an attribute in UXML. -/
def attributeName (name : Text) : Text :=
  if lower name == "id".toList then "name"
  else if lower name == "placeholder".toList then "placeholder-text"
  else name

def keptAttributes (attributes : Entries Text) : List (Text × Text) :=
  (attributes.filter fun (name, _) => !droppedAttributes.contains (lower name)).map fun (name, value) =>
    (attributeName name, value)

/-- The element of the UI library for an HTML element, told by its name and type. -/
def control? (name : Text) (attributes : Entries Text) : Option Control :=
  Control.ofElement? (lower name) (attributes.get? "type")

def tagOf (name : Text) (control : Option Control) : Text := (control.map Control.tag).getD (lower name)

def holdsText (control : Option Control) : Bool := control == some .label || control == some .button

/-- The text of a label or a button, with single spaces between its words. -/
def caption (children : List Html.Node) : Text := joinWith [' '] (words (Html.Node.plainTexts children))

def textAttribute (config : Config) (control : Option Control) (children : List Html.Node) : List (Text × Text) :=
  if holdsText control then
    [("text", if control == some .label && config.uppercase then upper (caption children) else caption children)]
  else []

def focusableAttribute (config : Config) (control : Option Control) : List (Text × Text) :=
  match config.focusable with
  | some focusable => if control == some .textField then [("focusable", if focusable then "true" else "false")] else []
  | none => []

/-- The attributes of the start tag for an element. -/
def startAttributes (config : Config) (control : Option Control) (attributes : Entries Text)
    (children : List Html.Node) : List (Text × Text) :=
  textAttribute config control children ++ keptAttributes attributes ++ focusableAttribute config control

def attributeText (pair : Text × Text) : Text := ' ' :: pair.1 ++ "=\"" ++ escape pair.2 ++ "\""

def indent (depth : Nat) : Text := List.replicate depth '\t'

def startText (tag : Text) (attributes : List (Text × Text)) : Text := '<' :: tag ++ attributes.flatMap attributeText

def isDropped (name : Text) : Bool := droppedElements.contains (lower name)

/-- A label or button without text. -/
def isEmptyCaption (control : Option Control) (children : List Html.Node) : Bool :=
  holdsText control && (caption children).isEmpty

def textLines (parent : Option Control) (depth : Nat) (content : Text) : List Text :=
  let text := escape (trim content)
  if isBlankText content then []
  else if parent == some .visualElement then
    [indent depth ++ startText Control.label.tag [("text", trim content)] ++ "/>"]
  else [indent depth ++ text]

/-- The lines of an element whose start tag and inner lines are given. -/
def elementLines (depth : Nat) (tag start : Text) (inner : List Text) : List Text :=
  if inner.isEmpty then [indent depth ++ start ++ "/>"]
  else [indent depth ++ start ++ ">"] ++ inner ++ [indent depth ++ "</" ++ tag ++ ">"]

mutual

/-- The lines of a node that stands inside the given element of the UI library. -/
def lines (config : Config) (parent : Option Control) (depth : Nat) : Html.Node → List Text
  | .element name attributes children =>
    let control := control? name attributes
    let start := startText (tagOf name control) (startAttributes config control attributes children)
    if isDropped name || isEmptyCaption control children then []
    else if holdsText control then [indent depth ++ start ++ "/>"]
    else elementLines depth (tagOf name control) start (listLines config control (depth + 1) children)
  | .text .cdata _ => []
  | .text _ content => textLines parent depth content
  | .hidden _ => []

def listLines (config : Config) (parent : Option Control) (depth : Nat) : List Html.Node → List Text
  | [] => []
  | node :: nodes => lines config parent depth node ++ listLines config parent depth nodes

end

mutual

/-- The empty labels and buttons that are left out, with the tags they would have had. -/
def leftOut : Html.Node → List (Text × Text)
  | .element name attributes children =>
    let control := control? name attributes
    if isDropped name then []
    else if isEmptyCaption control children then [(lower name, tagOf name control)]
    else if holdsText control then []
    else listLeftOut children
  | _ => []

def listLeftOut : List Html.Node → List (Text × Text)
  | [] => []
  | node :: nodes => leftOut node ++ listLeftOut nodes

end

/-- The UXML for a document. -/
def ofDocument (config : Config) (document : List Html.Node) : Text :=
  joinWith ['\n'] ([opening] ++ listLines config none 1 (Html.body document) ++ [closing]) ++ ['\n']

end UiToolkit.Uxml
