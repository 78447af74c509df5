import UiToolkit.Log
import UiToolkit.Uss.Converter

/-!
# The log of a conversion

The substitutes that the policy does not admit and the dropped rules, as the conversion comes to them, and the totals at its end. A conversion that fails leaves the entries up to the failure.
-/

namespace UiToolkit.Converter

open Text

def note (level : LogLevel) (message : Text) : LogEntry := ⟨level, .conversion, message⟩

def skipNote (property target : Text) : LogEntry :=
  note .debug ("Fallback " ++ property ++ " -> " ++ target ++ " skipped: target not native")

/-- The entries for the substitutes of a property, up to the first whose value cannot be translated. -/
def substitutesLog (c : Converter) (property : Text) : List (Text × Text) → List LogEntry
  | [] => []
  | (target, text) :: rest =>
    if !c.admits property target then skipNote property target :: c.substitutesLog property rest
    else if (c.translate target text).isOk then c.substitutesLog property rest
    else []

def declarationLog (c : Converter) (d : Declaration) : List LogEntry :=
  let property := renamed d.property
  if d.isCustom || !c.policy.isKnown property || c.policy.isNative property then []
  else match c.fallbacks.synthesize property d.text with
    | .ok pairs => c.substitutesLog property pairs
    | .error _ => []

/-- The entries for declarations, up to the first that fails. -/
def declarationsLog (c : Converter) : List Declaration → List LogEntry
  | [] => []
  | d :: ds => c.declarationLog d ++ if (c.handle d).isOk then c.declarationsLog ds else []

def dropNote? (v : Verdict) : Option LogEntry :=
  v.outcome.reason?.map fun reason =>
    note .info ("Empty/invalid ruleset discarded: " ++ v.selector ++ " (" ++ reason ++ ")")

def ruleLog (c : Converter) (r : Rule) : List LogEntry :=
  (if (c.header r.selectors).isOk then c.declarationsLog r.declarations else [])
    ++ ((c.verdict r).toOption.bind dropNote?).toList

/-- The entries for rules, up to the first that fails. -/
def rulesLog (c : Converter) : List Rule → List LogEntry
  | [] => []
  | r :: rs => c.ruleLog r ++ if (c.verdict r).isOk then c.rulesLog rs else []

def totalNote (d : Diagnostic) : LogEntry :=
  note (match d.severity with
    | .warning => .warning
    | .info => .info) d.message

def log (c : Converter) (rules : List Rule) : List LogEntry :=
  c.rulesLog rules ++ match c.convertRules rules with
    | .ok conversion => conversion.report.totals.map totalNote
    | .error _ => []

end UiToolkit.Converter
