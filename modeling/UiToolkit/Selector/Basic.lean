import UiToolkit.Selector.Segment
import UiToolkit.Text.Case

/-!
# Selectors

A selector is its source text together with the segments it is read as.
-/

namespace UiToolkit

structure Selector where
  raw : Text
  segments : List Segment
  deriving DecidableEq

namespace Selector

open Text

def ofText (raw : Text) : Selector := ⟨raw, Segment.scan raw⟩

def segmentsText (s : Selector) : Text := s.segments.flatMap Segment.text

def isRoot (s : Selector) : Bool :=
  match s.segments with
  | [⟨.pseudoClass, text⟩] => text == ":root".toList
  | _ => trim s.raw == ":root".toList

/--
Whether the selector names the class, in any letter case. The source text is searched as well as the segments, so a class is found even where it was read as part of something else.
-/
def containsClass (s : Selector) (name : Text) : Bool :=
  let needle := lower ('.' :: name)
  s.segments.any (fun g => g.kind == .className && lower g.text == needle) || occursIn needle (lower s.raw)

/-- The source text, or the segments put together where there is none. -/
def toText (s : Selector) : Text := if s.raw.isEmpty then s.segmentsText else s.raw

end Selector

end UiToolkit
