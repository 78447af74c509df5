import UiToolkit.Log
import UiToolkit.Uxml.Document

/-!
# The log of a document

The labels and buttons that are left out because they have no text.
-/

namespace UiToolkit.Uxml

open Text

def skipNote (left : Text × Text) : LogEntry :=
  ⟨.debug, .markup, "Skipping empty <" ++ left.1 ++ "> (" ++ left.2 ++ ")"⟩

def log (document : List Html.Node) : List LogEntry := (listLeftOut (Html.body document)).map skipNote

end UiToolkit.Uxml
