import UiToolkit.Selector.Basic
import UiToolkit.Value

/-!
# Style rules

A rule gives the same declarations to all of its selectors.
-/

namespace UiToolkit

structure Declaration where
  property : Text
  value : Option Fragment
  important : Bool
  deriving DecidableEq

namespace Declaration

/-- Names that start with two hyphens are the author's own. -/
def isCustom (d : Declaration) : Bool := "--".toList.isPrefixOf d.property

def isVendor (d : Declaration) : Bool := "-unity-".toList.isPrefixOf (Text.lower d.property)

/-- The source text of the value, empty when there is none. -/
def text (d : Declaration) : Text := (d.value.map Fragment.raw).getD []

end Declaration

structure Rule where
  selectors : List Selector
  declarations : List Declaration
  deriving DecidableEq

namespace Rule

def isRoot (r : Rule) : Bool := r.selectors.any Selector.isRoot

def hasCustom (r : Rule) : Bool := r.declarations.any Declaration.isCustom

def targetsClass (r : Rule) (name : Text) : Bool := r.selectors.any (·.containsClass name)

/-- The source texts of the selectors, as a list with commas. -/
def selectorText (r : Rule) : Text := Text.joinWith ", " (r.selectors.map Selector.raw)

end Rule

end UiToolkit
