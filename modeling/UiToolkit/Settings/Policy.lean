import UiToolkit.Path
import UiToolkit.Policy.Basic
import UiToolkit.Settings.File

/-!
# Policy files

The property table is an object that maps each property to an object, the denylist an array of strings. An error names a file that yields no JSON value by its normal path, and a file with a JSON value of another shape by the path as it was given.
-/

namespace UiToolkit

namespace Support

open Text

/-- Null is no text; anything else is, as it is shown. -/
def textOfJson? : Json → Option Text
  | .null => none
  | j => some j.toText

def ofMembers (members : Entries Json) : Support :=
  let fields := members.mapNames lower
  ⟨(Json.member "native" fields).isTrue, (Json.member "inherited" fields).isTrue,
    textOfJson? (Json.member "animatable" fields), textOfJson? (Json.member "description" fields)⟩

end Support

namespace PropertyTable

def ofJson (path : Text) (j : Json) : Except PolicyError (Entries Support) :=
  match j with
  | .object members => members.mapM fun (name, entry) =>
    match entry with
    | .object fields => .ok (name, Support.ofMembers fields)
    | _ => .error (.propertyNotObject name path)
  | _ => .error (.propertiesNotObject path)

def load (path : Text) (content : FileContent) : Except Fault (Entries Support) := do
  let j ← content.json fun cause => .policy (.unreadable "uss_properties.json" cause (Path.ofText path).toText)
  (ofJson path j).mapError .policy

end PropertyTable

namespace Denylist

def ofJson (path : Text) (j : Json) : Except PolicyError (List Text) :=
  match j.array?.bind fun items => items.mapM Json.string? with
  | some entries => .ok entries
  | none => .error (.breakingNotStrings path)

def load (path : Text) (content : FileContent) : Except Fault (List Text) := do
  let j ← content.json fun cause => .policy (.unreadable "breaking_selectors.json" cause (Path.ofText path).toText)
  (ofJson path j).mapError .policy

end Denylist

end UiToolkit
