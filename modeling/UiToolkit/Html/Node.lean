import UiToolkit.Entries
import UiToolkit.Html.Event

/-!
# Document trees

Events become a tree by nesting alone: no element is closed because another one begins, and an end tag closes everything up to the nearest open element of its name. Elements that cannot have content close at once, and one later end tag of the name is then passed over for each of them. Neighbouring pieces of text are one text.
-/

namespace UiToolkit.Html

open Text

/-- Text of scripts, styles, templates and ruby annotations is set apart from ordinary text. -/
inductive TextKind where
  | ordinary
  | special
  | cdata
  deriving DecidableEq

inductive Node where
  | element (name : Text) (attributes : Entries Text) (children : List Node)
  | text (kind : TextKind) (content : Text)
  | hidden (content : Text)

/-- An element that is still open, its children so far in reverse order. -/
structure OpenElement where
  name : Text
  attributes : Entries Text
  children : List Node

/-- A tree under construction. -/
structure Builder where
  /-- The open elements, innermost first. -/
  opened : List OpenElement
  /-- The finished nodes outside all open elements, in reverse order. -/
  roots : List Node
  pending : Text
  /-- Elements that closed at once and whose end tags are still to be passed over. -/
  closedEarly : List Text

def emptyElements : List Text :=
  ["area", "base", "br", "col", "embed", "hr", "img", "input", "keygen", "link", "menuitem", "meta", "param",
    "source", "track", "wbr", "basefont", "bgsound", "command", "frame", "image", "isindex", "nextid", "spacer"]

/-- Elements whose text is set apart. -/
def specialElements : List Text := ["script", "style", "template", "rt", "rp"]

/-- Elements that keep their blanks. -/
def preformattedElements : List Text := ["pre", "textarea"]

/-- Attributes whose values are lists of words, in any element. -/
def listAttributes : List Text := ["class", "accesskey", "dropzone"]

/-- Attributes whose values are lists of words in one element. -/
def elementListAttributes : List (Text × Text) :=
  [("a", "rel"), ("a", "rev"), ("link", "rel"), ("link", "rev"), ("td", "headers"), ("th", "headers"),
    ("form", "accept-charset"), ("object", "archive"), ("area", "rel"), ("icon", "sizes"), ("iframe", "sandbox"),
    ("output", "for")]

def isListAttribute (element name : Text) : Bool :=
  listAttributes.contains name || elementListAttributes.contains (element, name)

/-- The attributes of an element, lists of words with single spaces between them. -/
def attributeEntries (element : Text) (attributes : List (Text × Text)) : Entries Text :=
  (Entries.ofList attributes).map fun (name, value) =>
    (name, if isListAttribute element name then joinWith [' '] (words value) else value)

namespace Builder

def empty : Builder := ⟨[], [], [], []⟩

def addNode (b : Builder) (node : Node) : Builder :=
  match b.opened with
  | [] => { b with roots := node :: b.roots }
  | e :: outer => { b with opened := { e with children := node :: e.children } :: outer }

def isInside (b : Builder) (names : List Text) : Bool := b.opened.any fun e => names.contains e.name

def isLayoutBlank (c : Char) : Bool := c == ' ' || c == '\n' || c == '\t' || c == '\x0c' || c == '\r'

/-- Blanks that only lay out the source become a single one. -/
def collapseBlanks (b : Builder) (content : Text) : Text :=
  if content.all isLayoutBlank && !b.isInside preformattedElements then
    if content.contains '\n' then ['\n'] else [' ']
  else content

/-- The pending text becomes a node. -/
def flush (b : Builder) : Builder :=
  if b.pending.isEmpty then b
  else
    let kind := if b.isInside specialElements then TextKind.special else .ordinary
    { b.addNode (.text kind (b.collapseBlanks b.pending)) with pending := [] }

def openElement (b : Builder) (name : Text) (attributes : List (Text × Text)) : Builder :=
  { b.flush with opened := ⟨name, attributeEntries name attributes, []⟩ :: b.flush.opened }

/-- Closes the innermost open element. -/
def closeOne (b : Builder) : Builder :=
  match b.opened with
  | [] => b
  | e :: outer => { b with opened := outer }.addNode (.element e.name e.attributes e.children.reverse)

def closeMany : Nat → Builder → Builder
  | 0, b => b
  | n + 1, b => closeMany n b.closeOne

/-- Closes the nearest open element of the name and what is open inside it. -/
def closeElement (b : Builder) (name : Text) : Builder :=
  match b.flush.opened.findIdx? (·.name == name) with
  | some i => closeMany (i + 1) b.flush
  | none => b.flush

/-- An end tag, which is passed over if its element closed early. -/
def endTag (b : Builder) (name : Text) : Builder :=
  if b.closedEarly.contains name then { b with closedEarly := b.closedEarly.erase name } else b.closeElement name

def add (b : Builder) : Event → Builder
  | .startTag name attributes selfClosing =>
    let b := b.openElement name attributes
    if selfClosing then b.endTag name
    else if emptyElements.contains name then { b.closeElement name with closedEarly := b.closedEarly ++ [name] }
    else b
  | .endTag name => b.endTag name
  | .text content => { b with pending := b.pending ++ content }
  | .cdata content => b.flush.addNode (.text .cdata (b.collapseBlanks content))
  | .hidden content => b.flush.addNode (.hidden content)

def finish (b : Builder) : List Node := (closeMany b.flush.opened.length b.flush).roots.reverse

end Builder

/-- The nodes of a document; `none` for refused markup. -/
def document? (html : Text) : Option (List Node) := (events? html).map fun es => (es.foldl Builder.add .empty).finish

namespace Node

mutual

/-- The ordinary text inside a node. -/
def plainText : Node → Text
  | .element _ _ children => plainTexts children
  | .text .special _ => []
  | .text _ content => content
  | .hidden _ => []

def plainTexts : List Node → Text
  | [] => []
  | node :: nodes => plainText node ++ plainTexts nodes

end

/-- An element of a tree: its name, attributes and children. -/
structure Element where
  name : Text
  attributes : Entries Text
  children : List Node

mutual

/-- The elements of a tree in document order. -/
def elements : Node → List Element
  | .element name attributes children => ⟨name, attributes, children⟩ :: listElements children
  | _ => []

def listElements : List Node → List Element
  | [] => []
  | node :: nodes => elements node ++ listElements nodes

end

mutual

/-- The one text that a node consists of. -/
def onlyText? : Node → Option Text
  | .element _ _ children => onlyTextOf? children
  | .text _ content => some content
  | .hidden content => some content

def onlyTextOf? : List Node → Option Text
  | [node] => onlyText? node
  | _ => none

end

end Node

/-- What a document shows: the children of its body or, without one, of its root. -/
def body (document : List Node) : List Node :=
  let elements := Node.listElements document
  let named (name : String) : Option Node.Element := elements.find? (·.name == name.toList)
  match named "body", named "html" with
  | some e, _ => e.children
  | none, some e => e.children
  | none, none => document

end UiToolkit.Html
