import UiToolkit.Selector.Segment
import UiToolkit.Text.Case

/-!
# Pseudo classes and pseudo elements

USS knows a handful of pseudo classes and no pseudo elements, not even in the old spelling with one colon.
-/

namespace UiToolkit

namespace Pseudo

open Text

def supportedClasses : List Text :=
  [":hover", ":active", ":focus", ":disabled", ":enabled", ":checked", ":inactive", ":selected", ":root"]

def legacyElements : List Text := [":before", ":after", ":first-letter", ":first-line"]

/-- The name in lower case, without arguments. -/
def nameOf (s : Segment) : Text := lower (s.text.takeWhile (· ≠ '('))

def isElement (s : Segment) : Bool := s.kind == .pseudoElement || legacyElements.contains (nameOf s)

def isSupported (s : Segment) : Bool := !isElement s && supportedClasses.contains (nameOf s)

end Pseudo

end UiToolkit
