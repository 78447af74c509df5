import UiToolkit.Binary64
import UiToolkit.Entries
import UiToolkit.Text.Quoted

/-!
# JSON values

Whole numbers and fractions are different values, and the members of an object keep their order.
-/

namespace UiToolkit

inductive Json where
  | null
  | bool (value : Bool)
  | int (value : Int)
  | float (value : Binary64)
  | string (value : Text)
  | array (items : List Json)
  | object (members : List (Text × Json))

namespace Json

/-- Everything but null, false, zero and what is empty. -/
def isTruthy : Json → Bool
  | .null => false
  | .bool b => b
  | .int n => n ≠ 0
  | .float (.finite _ mantissa _) => mantissa ≠ 0
  | .float _ => true
  | .string s => !s.isEmpty
  | .array items => !items.isEmpty
  | .object members => !members.isEmpty

def isTrue : Json → Bool
  | .bool true => true
  | _ => false

def bool? : Json → Option Bool
  | .bool b => some b
  | _ => none

def string? : Json → Option Text
  | .string s => some s
  | _ => none

def object? : Json → Option (Entries Json)
  | .object members => some members
  | _ => none

def array? : Json → Option (List Json)
  | .array items => some items
  | _ => none

/-- The member of an object; a missing member is null. -/
def member (name : Text) (members : Entries Json) : Json := (members.get? name).getD .null

mutual

/-- A value as it is shown inside another one, strings in quotes. -/
def shown : Json → Text
  | .null => "None"
  | .bool true => "True"
  | .bool false => "False"
  | .int n => Text.ofInt n
  | .float x => x.toText
  | .string s => Text.quoted s
  | .array items => '[' :: shownItems items ++ [']']
  | .object members => '\x7b' :: shownMembers members ++ ['\x7d']

def shownItems : List Json → Text
  | [] => []
  | [item] => shown item
  | item :: items => shown item ++ ", " ++ shownItems items

def shownMembers : List (Text × Json) → Text
  | [] => []
  | [(name, value)] => Text.quoted name ++ ": " ++ shown value
  | (name, value) :: members => Text.quoted name ++ ": " ++ shown value ++ ", " ++ shownMembers members

end

/-- A value as text: a string is itself, anything else is shown. -/
def toText : Json → Text
  | .string s => s
  | j => shown j

end Json

end UiToolkit
