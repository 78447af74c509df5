import UiToolkit.Policy.Fallback
import UiToolkit.Settings.File

/-!
# The fallbacks file

An object that maps each property to a list of rules. A rule is an object with a list `emit` of substitutes and possibly a guard `when`. The first thing wrong is reported with its place.
-/

namespace UiToolkit

namespace FallbackTable

open Text

def indexed (place : Text) (i : Nat) : Text := place ++ "[" ++ Text.ofNat i ++ "]"

def fail {α : Type} (place : Text) (problem : FallbackProblem) : Except Fault α :=
  .error (.policy (.fallback place problem))

def transformationOfJson (place : Text) (j : Json) : Except Fault Filling :=
  match j with
  | .null => .ok .nothing
  | .array _ => .error .compositeName
  | .object _ => .error .compositeName
  | j =>
    match j.string?.bind Transformation.ofName? with
    | some t => .ok (.transformation t)
    | none => fail place (.unknownTransformation j.toText)

/-- The filling that the one member of its name gives. -/
def fillingOfJson (place : Text) (members : Entries Json) : Except Fault Filling :=
  match members.get? "value", members.get? "map", members.get? "transform" with
  | some .null, none, none => .ok .nothing
  | some j, none, none => .ok (.template j.toText)
  | none, some (.object table), none =>
    .ok (.keywords (Entries.mapNames lower (table.map fun (name, j) => (name, j.toText))))
  | none, some _, none => fail place .keywordsNotObject
  | none, none, some j => transformationOfJson place j
  | _, _, _ => fail place .notOneFilling

def substituteOfJson (place : Text) (j : Json) : Except Fault Substitute :=
  let members := j.object?.getD []
  let property := Json.member "property" members
  if property.isTruthy then (fillingOfJson place members).map fun f => ⟨property.toText, f⟩
  else fail place .noProperty

def substitutesOfJson (place : Text) (i : Nat) : List Json → Except Fault (List Substitute)
  | [] => .ok []
  | j :: js => do
    let s ← substituteOfJson (indexed place i) j
    return s :: (← substitutesOfJson place (i + 1) js)

/-- A string or an array as a set of texts in lower case; null is no set. -/
def valuesOfJson (place : Text) (j : Json) : Except Fault (Option (List Text)) :=
  match j with
  | .null => .ok none
  | .string s => .ok (some [lower s])
  | .array items => .ok (some (sortedSet (items.map fun item => lower item.toText)))
  | _ => fail place .notStrings

def ruleOfJson (place : Text) (j : Json) : Except Fault Fallback := do
  let members := j.object?.getD []
  match Json.member "emit" members with
  | .array emit =>
    let condition := Json.member "when" members
    let condition ← match condition with
      | .object fields => .ok fields
      | other => if other.isTruthy then fail place .guardNotObject else .ok []
    let substitutes ← substitutesOfJson (place ++ ".emit") 0 emit
    let equals ← valuesOfJson (place ++ ".when.equals") (Json.member "equals" condition)
    let notEquals ← valuesOfJson (place ++ ".when.not_equals") (Json.member "not_equals" condition)
    let contains := match Json.member "contains" condition with
      | .null => none
      | j => some (lower j.toText)
    return ⟨⟨equals, notEquals, contains⟩, substitutes⟩
  | _ => fail place .noSubstitutes

def rulesOfJson (place : Text) (i : Nat) : List Json → Except Fault (List Fallback)
  | [] => .ok []
  | j :: js => do
    let rule ← ruleOfJson (indexed place i) j
    return rule :: (← rulesOfJson place (i + 1) js)

def ofJson (path : Text) (j : Json) : Except Fault FallbackTable :=
  match j with
  | .object members => do
    let entries ← members.mapM fun (name, j) =>
      let place : Text := "fallbacks['" ++ name ++ "']"
      match j with
      | .array rules => do return (name, ← rulesOfJson place 0 rules)
      | _ => fail place .notRules
    return ofEntries entries
  | _ => .error (.policy (.fallbacksNotObject path))

def load (path : Text) (content : FileContent) : Except Fault FallbackTable := do
  let j ← content.json fun cause => .policy (.unreadable "fallback table" cause path)
  ofJson path j

end FallbackTable

end UiToolkit
