import UiToolkit.Path
import UiToolkit.Settings.File
import UiToolkit.StyleSheet.Variable

/-!
# Variable metadata

An array of objects, one for each variable. Items that are no objects are passed over, and members of another shape than expected count as missing.
-/

namespace UiToolkit

namespace Variable

def linesOfJson (j : Json) : List Int :=
  (j.array?.getD []).filterMap fun
    | .int n => some n
    | _ => none

def ofMembers (members : Entries Json) : Variable :=
  let name := Json.member "name" members
  ⟨if name.isTruthy then name.toText else [],
    VariableType.ofName ((Json.member "type" members).string?.getD []),
    (Json.member "defined" members).isTrue,
    (Json.member "value_example" members).string?,
    linesOfJson (Json.member "lines_defined" members),
    linesOfJson (Json.member "lines_referenced" members)⟩

def ofJson (path : Text) (j : Json) : Except MetadataError (List Variable) :=
  match j with
  | .array items => .ok (items.filterMap fun item => item.object?.map ofMembers)
  | _ => .error (.notArray path)

def load (path : Text) (content : FileContent) : Except Fault (List Variable) := do
  let path := (Path.ofText path).toText
  let j ← content.json fun
    | .file (.notFound _) => .metadata (.missing path)
    | cause => .metadata (.unreadable cause path)
  (ofJson path j).mapError .metadata

end Variable

end UiToolkit
