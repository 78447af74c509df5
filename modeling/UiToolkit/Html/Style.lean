import UiToolkit.Html.Node

/-!
# Styles of a document

The style sheets that a document holds: its style elements and, gathered in one more block, its style attributes as rules for classes numbered in document order. Wrappers that hide a style sheet from old readers are taken off.
-/

namespace UiToolkit.Html

open Text

inductive Origin where
  | styleElement
  | styleAttributes
  deriving DecidableEq

def Origin.name : Origin → Text
  | .styleElement => "<style>"
  | .styleAttributes => "inline style attributes"

structure StyleBlock where
  css : Text
  media : Option Text
  origin : Origin

/-- The text without its closed comments. -/
def dropComments : Text → Text
  | [] => []
  | c :: cs =>
    if "<!--".toList.isPrefixOf (c :: cs) then
      match splitOnce? "-->" (cs.drop 3) with
      | some (inside, _) => dropComments (cs.drop (3 + inside.length + 3))
      | none => c :: dropComments cs
    else c :: dropComments cs
termination_by s => s.length
decreasing_by all_goals simp +arith

/-- The text with the contents of closed character data sections in their place. -/
def unwrapSections : Text → Text
  | [] => []
  | c :: cs =>
    if "<![CDATA[".toList.isPrefixOf (c :: cs) then
      match splitOnce? "]]>" (cs.drop 8) with
      | some (inside, _) => inside ++ unwrapSections (cs.drop (8 + inside.length + 3))
      | none => c :: unwrapSections cs
    else c :: unwrapSections cs
termination_by s => s.length
decreasing_by all_goals simp +arith

def clean (css : Text) : Text := trim (unwrapSections (dropComments css))

/-- The block of a style element; `none` when it is empty. -/
def styleBlock? (e : Node.Element) : Option StyleBlock :=
  if e.name ≠ "style".toList then none
  else
    let css := clean ((Node.onlyTextOf? e.children).getD [])
    if css.isEmpty then none else some ⟨css, (e.attributes.get? "media").filter (!·.isEmpty), .styleElement⟩

/-- The style attribute of an element; `none` when it is blank. -/
def inlineStyle? (e : Node.Element) : Option Text := ((e.attributes.get? "style").map trim).filter (!·.isEmpty)

def inlineRule (number : Nat) (style : Text) : Text :=
  ".inline-style-" ++ Text.ofNat number ++ " \x7b " ++ style ++ " \x7d"

def inlineRules (number : Nat) : List Text → List Text
  | [] => []
  | style :: styles => inlineRule number style :: inlineRules (number + 1) styles

def inlineBlock? (elements : List Node.Element) : Option StyleBlock :=
  let rules := inlineRules 1 (elements.filterMap inlineStyle?)
  if rules.isEmpty then none else some ⟨joinWith ['\n'] rules, none, .styleAttributes⟩

/-- The style blocks of a document, those of attributes on request. -/
def styleBlocks (inline : Bool) (document : List Node) : List StyleBlock :=
  let elements := Node.listElements document
  elements.filterMap styleBlock? ++ (if inline then (inlineBlock? elements).toList else [])

namespace StyleBlock

/-- The lines of a block, inside a media rule if it is for certain media. -/
def lines (b : StyleBlock) : List Text :=
  match (b.media.map trim).filter (!·.isEmpty) with
  | some media => ["@media " ++ media ++ " \x7b", b.css, "\x7d", []]
  | none => [b.css, []]

/-- All blocks as one style sheet. -/
def combined (blocks : List StyleBlock) : Text :=
  joinWith ['\n'] ([("/* Extracted CSS from HTML file */" : Text), []] ++ blocks.flatMap lines)

end StyleBlock

end UiToolkit.Html
