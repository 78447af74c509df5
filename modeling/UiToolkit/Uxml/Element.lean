import UiToolkit.Entries
import UiToolkit.Text.Blank
import UiToolkit.Text.Case

/-!
# UI elements

The element of the UI library that stands for an HTML element. Tags are looked up in lower case; an `input` is told apart by its type, and one of an unknown type counts as a plain `input`.
-/

namespace UiToolkit

inductive Control where
  | label
  | visualElement
  | button
  | textField
  | integerField
  | toggle
  | radioButton
  | slider
  deriving DecidableEq

namespace Control

open Text

/-- The element name as selectors write it. -/
def name : Control → Text
  | label => "Label"
  | visualElement => "VisualElement"
  | button => "Button"
  | textField => "TextField"
  | integerField => "IntegerField"
  | toggle => "Toggle"
  | radioButton => "RadioButton"
  | slider => "Slider"

/-- The element name as documents write it. -/
def tag (c : Control) : Text := "ui:" ++ c.name

def labelTags : List Text :=
  ["p", "span", "text", "h1", "h2", "h3", "h4", "h5", "h6", "label", "strong", "b", "em", "i", "small", "mark",
    "abbr", "cite", "code", "q", "time"]

def containerTags : List Text :=
  ["div", "section", "article", "header", "footer", "main", "nav", "aside", "ul", "ol", "li", "form"]

def byTag : Entries Control :=
  labelTags.map (·, label) ++ containerTags.map (·, visualElement) ++ [("button".toList, button), ("input".toList, textField)]

def byInputType : Entries Control :=
  [("text", textField), ("number", integerField), ("password", textField), ("email", textField),
    ("checkbox", toggle), ("radio", radioButton), ("range", slider), ("file", textField)]

/-- The selector of the inputs of one type. -/
def inputSelector (type : Text) : Text := "input[type=\"" ++ type ++ "\"]"

def bySelector : Entries Control := byTag ++ byInputType.map fun (type, c) => (inputSelector type, c)

/-- The element for a tag, or for the selector of the inputs of one type. -/
def ofSelector? (selector : Text) : Option Control := bySelector.get? (lower (trim selector))

/-- The element for the inputs of a type. -/
def ofInputType? (type : Text) : Option Control := bySelector.get? (inputSelector (lower (trim type)))

/-- The element for a tag that may have a type; an empty type counts as none. -/
def ofElement? (tag : Text) (type : Option Text) : Option Control :=
  let tag := lower tag
  let typed := if tag == "input".toList then type.filter (!·.isEmpty) >>= ofInputType? else none
  typed <|> bySelector.get? tag

end Control

end UiToolkit
