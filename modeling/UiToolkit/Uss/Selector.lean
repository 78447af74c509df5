import UiToolkit.Policy.Basic
import UiToolkit.Policy.Pseudo
import UiToolkit.Selector.Basic
import UiToolkit.Text.Nesting
import UiToolkit.Uxml.Element

/-!
# Selectors in USS

A selector is refused when a word of it meets the denylist, when a part of it cannot be read, and when it uses a pseudo class or element that USS lacks. In any other selector the tags give way to the names of UI elements, `body` and `html` standing for the root.
-/

namespace UiToolkit

/-- Why a selector is refused. -/
inductive Refusal where
  /-- It meets the denylist, and the whole rule goes with it. -/
  | breaking (fragment : Text)
  | unreadable (text : Text)
  | pseudoElement (name : Text)
  | pseudoClass (name : Text)
  deriving DecidableEq

namespace Refusal

def isBreaking : Refusal → Bool
  | .breaking _ => true
  | _ => false

def message : Refusal → Text
  | .breaking fragment => "breaking selector '" ++ fragment ++ "'"
  | .unreadable text => "unparseable selector near '" ++ text ++ "'"
  | .pseudoElement name => "unsupported pseudo-element '" ++ name ++ "'"
  | .pseudoClass name => "unsupported pseudo-class '" ++ name ++ "'"

end Refusal

namespace Segment

open Text

def refusal? (s : Segment) : Option Refusal :=
  if s.kind == .unknown then some (.unreadable s.text)
  else if s.isPseudo && !Pseudo.isSupported s then
    some (if Pseudo.isElement s then .pseudoElement (Pseudo.nameOf s) else .pseudoClass (Pseudo.nameOf s))
  else none

/-- The segments grouped into compounds, each separator being a group of its own. -/
def compounds : List Segment → List (List Segment)
  | [] => []
  | g :: gs =>
    match compounds gs with
    | (h :: hs) :: rest =>
      if g.isSeparator || h.isSeparator then [g] :: (h :: hs) :: rest else (g :: h :: hs) :: rest
    | rest => [g] :: rest

/-- The type that an attribute segment of the form `[type=…]` asks for. -/
def askedType? (s : Segment) : Option Text :=
  if s.kind ≠ .attribute then none
  else match s.text with
    | '[' :: rest =>
      let rest := rest.dropWhile isBlank
      let afterName := (rest.drop 4).dropWhile isBlank
      if !startsWithAnyCase "type" rest || afterName.head? ≠ some '=' then none
      else
        let value := (afterName.drop 1).dropWhile isBlank
        let value := if value.head?.any Nesting.isQuote then value.drop 1 else value
        let stops (c : Char) : Bool := c == '"' || c == '\'' || c == ']' || isBlank c
        let type := value.takeWhile (!stops ·)
        let closing := value.dropWhile (!stops ·)
        let closing := if closing.head?.any Nesting.isQuote then closing.drop 1 else closing
        if !type.isEmpty && closing.dropWhile isBlank == [']'] then some type else none
    | _ => none

def isRootTag (tag : Text) : Bool := lower tag == "body".toList || lower tag == "html".toList

def textOf (segments : List Segment) : Text := segments.flatMap Segment.text

/-- The UI element for an `input` with the segment after it, when that segment asks for a known type. -/
def typedInput? (tag : Text) (next : Segment) : Option Control :=
  if lower tag == "input".toList then (askedType? next).bind fun type => Control.ofSelector? (Control.inputSelector type)
  else none

/-- The name that stands for a tag: that of its UI element, or the tag itself. -/
def elementName (tag : Text) : Text := ((Control.ofSelector? tag).map Control.name).getD tag

def rewriteCompound : List Segment → Text
  | [] => []
  | [⟨.whitespace, _⟩] => [' ']
  | [⟨.typeName, tag⟩] => if isRootTag tag then ":root" else elementName tag
  | ⟨.typeName, tag⟩ :: next :: rest =>
    match typedInput? tag next with
    | some control => control.name ++ textOf rest
    | none => elementName tag ++ textOf (next :: rest)
  | segments => textOf segments

end Segment

namespace Selector

open Text

/-- Why the selector is refused; the denylist is consulted first. -/
def refusal? (policy : Policy) (s : Selector) : Option Refusal :=
  match (words s.raw).findSome? policy.breakingMatch? with
  | some fragment => some (.breaking fragment)
  | none => s.segments.findSome? Segment.refusal?

/-- The text of the selector in USS. -/
def rewritten (s : Selector) : Text := trim ((Segment.compounds s.segments).flatMap Segment.rewriteCompound)

def rewrite (policy : Policy) (s : Selector) : Except Refusal Text :=
  match s.refusal? policy with
  | some refusal => .error refusal
  | none => .ok s.rewritten

end Selector

end UiToolkit
