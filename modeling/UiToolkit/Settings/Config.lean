import UiToolkit.Config
import UiToolkit.Path
import UiToolkit.Settings.File

/-!
# The configuration file

An object with the members `assets` and `options`. Names of members are read in any case, and members of another shape than expected count as missing.
-/

namespace UiToolkit

namespace Config

open Text

/-- The path that an asset entry gives, empty where it gives none. -/
def pathOfJson (entry : Json) : Text :=
  match entry.object? with
  | none => []
  | some members =>
    let path := Json.member "path" (members.mapNames lower)
    if path.isTruthy then path.toText else []

def assetsOfJson (j : Json) : Entries Text :=
  ((j.object?.getD []).map fun (name, entry) => (name, pathOfJson entry))

def ofMembers (members : Entries Json) : Config :=
  let top := members.mapNames lower
  let options := ((Json.member "options" top).object?.getD []).mapNames lower
  ⟨(assetsOfJson (Json.member "assets" top)).mapNames lower, (Json.member "uppercase" options).isTrue,
    (Json.member "focusable" options).bool?⟩

/-- A null stands for the empty configuration. -/
def ofJson (path : Text) (j : Json) : Except ConfigError Config :=
  match j with
  | .null => .ok .empty
  | .object members => .ok (ofMembers members)
  | _ => .error (.notObject path)

def load (path : Text) (content : FileContent) : Except Fault Config := do
  let path := (Path.ofText path).toText
  let j ← content.json fun cause => .config (.unreadable cause path)
  (ofJson path j).mapError .config

end Config

end UiToolkit
