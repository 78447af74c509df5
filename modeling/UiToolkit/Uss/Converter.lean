import UiToolkit.Policy.Fallback
import UiToolkit.StyleSheet.Rule
import UiToolkit.Uss.Report
import UiToolkit.Uss.Selector
import UiToolkit.Uss.Value

/-!
# Conversion of rules

Each rule is converted on its own. It is kept with the accepted selectors and the declarations that come out, or dropped for a reason. The text is the kept rules in order, and the report is read off the verdicts, so what is written and what is reported cannot disagree. The only way for a conversion to fail is a length with too many digits.
-/

namespace UiToolkit

structure Converter where
  policy : Policy
  config : Config
  fallbacks : FallbackTable

/-- What becomes of a declaration. -/
inductive Handling where
  | emitted (pairs : List (Text × Text))
  /-- The policy does not know the property. -/
  | unsupported (property : Text)
  /-- The property is not native and no substitute came out. -/
  | notImplemented (property : Text)
  deriving DecidableEq

namespace Handling

def pairs : Handling → List (Text × Text)
  | .emitted pairs => pairs
  | _ => []

def unsupported? : Handling → Option Text
  | .unsupported property => some property
  | _ => none

def notImplemented? : Handling → Option Text
  | .notImplemented property => some property
  | _ => none

end Handling

/-- What becomes of a rule. -/
inductive Outcome where
  | kept (header : List Text) (pairs : Entries Text)
  | dropped (reason : Text)
  deriving DecidableEq

/-- The outcome for a rule, with the handling of those declarations that were looked at. -/
structure Verdict where
  selector : Text
  handlings : List Handling
  outcome : Outcome
  deriving DecidableEq

/-- The text of a conversion, and what was left out of it. -/
structure Conversion where
  text : Text
  report : Report
  deriving DecidableEq

namespace Outcome

open Text

def indent : Text := "    "

def line (pair : Text × Text) : Text := indent ++ pair.1 ++ ": " ++ pair.2 ++ ";\n"

def block (header : List Text) (pairs : Entries Text) : Text :=
  joinWith ", " header ++ " \x7b\n" ++ pairs.flatMap line ++ "\x7d\n"

def text : Outcome → Text
  | .kept header pairs => block header pairs
  | .dropped _ => []

def reason? : Outcome → Option Text
  | .kept _ _ => none
  | .dropped reason => some reason

end Outcome

namespace Converter

open Text

/-- The name that a property goes by in USS. -/
def renamed (property : Text) : Text :=
  let name := lower property
  if name == "background".toList then "background-color"
  else if name == "font-family".toList then "-unity-font"
  else name

def translate (c : Converter) (property value : Text) : Except RoundingError Text :=
  Value.translate (some c.config) property value

/-- A substitute may name a native property, or the property it stands in for. -/
def admits (c : Converter) (property target : Text) : Bool := lower target == property || c.policy.isNative target

/-- The substitutes for a declaration that the policy admits, translated, blank ones left out. -/
def substitutes (c : Converter) (property value : Text) : Except RoundingError (List (Text × Text)) := do
  let synthesized ← c.fallbacks.synthesize property value
  let translated ← (synthesized.filter fun (target, _) => c.admits property target).mapM fun (target, text) =>
    return (target, ← c.translate target text)
  return translated.filter fun (_, text) => !isBlankText text

/-- The lines that a native declaration comes to; a font is written under both of its names. -/
def nativePairs (property translated : Text) : List (Text × Text) :=
  if isBlankText translated then []
  else if property == "-unity-font".toList then [(property, translated), ("-unity-font-definition", translated)]
  else [(property, translated)]

def handle (c : Converter) (d : Declaration) : Except RoundingError Handling :=
  if d.isCustom then .ok (.emitted [(d.property, d.text)])
  else
    let property := renamed d.property
    if !c.policy.isKnown property then .ok (.unsupported property)
    else if c.policy.isNative property then do
      return .emitted (nativePairs property (← c.translate property d.text))
    else do
      let pairs ← c.substitutes property d.text
      return if pairs.isEmpty then .notImplemented property else .emitted pairs

/-- The accepted texts of the selectors, or the reason why the rule has to go. -/
def header (c : Converter) (selectors : List Selector) : Except Text (List Text) :=
  let refusals := selectors.filterMap (·.refusal? c.policy)
  match refusals.find? Refusal.isBreaking with
  | some breaking => .error breaking.message
  | none =>
    let accepted := (selectors.filter fun s => (s.refusal? c.policy).isNone).map Selector.rewritten
    if !accepted.isEmpty then .ok accepted
    else if refusals.isEmpty then .error "no usable selector"
    else .error (joinWith "; " (refusals.map Refusal.message))

/-- A property that comes out twice keeps its first place and its last value. -/
def outcome (header : List Text) (handlings : List Handling) : Outcome :=
  let pairs := Entries.ofList (handlings.flatMap Handling.pairs)
  if pairs.isEmpty then .dropped "no supported declarations" else .kept header pairs

def verdict (c : Converter) (r : Rule) : Except RoundingError Verdict :=
  match c.header r.selectors with
  | .error reason => .ok ⟨r.selectorText, [], .dropped reason⟩
  | .ok header => do
    let handlings ← r.declarations.mapM c.handle
    return ⟨r.selectorText, handlings, outcome header handlings⟩

def reportOf (verdicts : List Verdict) : Report where
  dropped := verdicts.filterMap fun v => v.outcome.reason?.map (v.selector, ·)
  unsupported := Entries.distinct (verdicts.flatMap fun v => v.handlings.filterMap Handling.unsupported?)
  notImplemented := Entries.distinct (verdicts.flatMap fun v => v.handlings.filterMap Handling.notImplemented?)

def conversionOf (verdicts : List Verdict) : Conversion :=
  ⟨verdicts.flatMap (·.outcome.text), reportOf verdicts⟩

def convertRules (c : Converter) (rules : List Rule) : Except RoundingError Conversion :=
  (rules.mapM c.verdict).map conversionOf

end Converter

end UiToolkit
