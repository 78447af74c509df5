import UiToolkit.Decimal.Numeral
import UiToolkit.Text.Blank
import UiToolkit.Text.Case

/-!
# Declaration values

A value is kept as one fragment of its source text, labelled with its kind and, where it has one, its unit or the name of its function. Kinds are tried in a fixed order, since `rgb` also looks like a keyword and `url(...)` like a function.
-/

namespace UiToolkit

inductive ValueKind where
  | number
  | integer
  | length
  | percentage
  | color
  | keyword
  | variableReference
  | resource
  | url
  | string
  | boolean
  | function
  deriving DecidableEq

def ValueKind.name : ValueKind → Text
  | number => "number"
  | integer => "integer"
  | length => "length"
  | percentage => "percentage"
  | color => "color"
  | keyword => "keyword"
  | variableReference => "variable-reference"
  | resource => "resource"
  | url => "url"
  | string => "string"
  | boolean => "boolean"
  | function => "function"

structure Fragment where
  kind : ValueKind
  raw : Text
  unit : Option Text
  function : Option Text
  deriving DecidableEq

namespace Value

open Text

/-- A numeral and the unit that follows it, which holds no blanks. -/
def splitNumber? (value : Text) : Option (Text × Text) := do
  let (number, unit) ← Numeral.split? value
  if unit.any isBlank then none else some (number, unit)

def startsWithAny (starts : List String) (s : Text) : Bool := starts.any (·.toList.isPrefixOf s)

def numericKind (number unit : Text) : ValueKind × Option Text :=
  if unit.isEmpty then (if number.contains '.' then .number else .integer, none)
  else if unit == ['%'] then (.percentage, some unit)
  else (.length, some unit)

/-- The kind and unit of a value without blanks around it. -/
def kindOf (value : Text) : ValueKind × Option Text :=
  let lowered := lower value
  if startsWithAny ["var("] lowered then (.variableReference, none)
  else if startsWithAny ["resource("] lowered then (.resource, none)
  else if startsWithAny ["url("] lowered then (.url, none)
  else if startsWithAny ["#", "rgb", "hsl"] lowered then (.color, none)
  else if startsWithAny ["'", "\""] value then (.string, none)
  else if lowered == "true".toList || lowered == "false".toList then (.boolean, none)
  else match splitNumber? value with
    | some (number, unit) => numericKind number unit
    | none =>
      if value.contains '(' && value.getLast? == some ')' then (.function, none) else (.keyword, none)

def classify? (raw : Text) : Option (ValueKind × Option Text) :=
  let value := trim raw
  if value.isEmpty then none else some (kindOf value)

end Value

namespace Fragment

open Text

def functionName? (value : Text) : Option Text :=
  let name := trim (value.takeWhile (· ≠ '('))
  if name.isEmpty then none else some name

/-- The fragment that a source text stands for; `none` for blanks only. -/
def ofText? (raw : Text) : Option Fragment :=
  (Value.classify? raw).map fun (kind, unit) =>
    ⟨kind, trim raw, unit, if kind == .function then functionName? (trim raw) else none⟩

end Fragment

end UiToolkit
