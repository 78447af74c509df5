import UiToolkit.Entries
import UiToolkit.Text.Case

/-!
# Property support

Whether a property exists in USS, and what else is known about it.
-/

namespace UiToolkit

structure Support where
  native : Bool
  inherited : Bool
  animatable : Option Text
  description : Option Text
  deriving DecidableEq

end UiToolkit
