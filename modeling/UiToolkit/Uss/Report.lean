import UiToolkit.Entries

/-!
# Reports

What a conversion leaves behind besides the text: the rules that were dropped and why, and the names of properties that USS does not support or for which nothing is implemented. Diagnostics and summary are two views of it.
-/

namespace UiToolkit

inductive Severity where
  | warning
  | info
  deriving DecidableEq

def Severity.name : Severity → Text
  | .warning => "WARNING"
  | .info => "INFO"

inductive Diagnostic where
  | ruleDropped (selector reason : Text)
  | unsupported (properties : List Text)
  | notImplemented (properties : List Text)
  deriving DecidableEq

namespace Diagnostic

open Text

def code : Diagnostic → Text
  | .ruleDropped _ _ => "rule-dropped"
  | .unsupported _ => "unsupported-property"
  | .notImplemented _ => "not-implemented"

def severity : Diagnostic → Severity
  | .unsupported _ => .warning
  | _ => .info

def message : Diagnostic → Text
  | .ruleDropped _ reason => "Empty/invalid ruleset discarded: " ++ reason
  | .unsupported properties => "UI Toolkit doesn't support: " ++ joinWith ", " properties
  | .notImplemented properties => "Not implemented yet: " ++ joinWith ", " properties

def selector? : Diagnostic → Option Text
  | .ruleDropped selector _ => some selector
  | _ => none

def properties : Diagnostic → List Text
  | .ruleDropped _ _ => []
  | .unsupported properties => properties
  | .notImplemented properties => properties

def toText (d : Diagnostic) : Text :=
  let location := match d.selector? with
    | some (c :: cs) => " [selector=" ++ c :: cs ++ [']']
    | _ => []
  d.severity.name ++ location ++ ": " ++ d.message

end Diagnostic

structure Report where
  /-- The selectors of the dropped rules, each with the reason. -/
  dropped : List (Text × Text)
  unsupported : List Text
  notImplemented : List Text
  deriving DecidableEq

namespace Report

open Text

def totals (r : Report) : List Diagnostic :=
  (if r.unsupported.isEmpty then [] else [.unsupported r.unsupported])
    ++ (if r.notImplemented.isEmpty then [] else [.notImplemented r.notImplemented])

def diagnostics (r : Report) : List Diagnostic :=
  r.dropped.map (fun (selector, reason) => .ruleDropped selector reason) ++ r.totals

def warnings (r : Report) : List Diagnostic := r.diagnostics.filter (·.severity == .warning)

/-- One line for each dropped rule, then the totals. -/
def summary (r : Report) : List Text :=
  r.dropped.map (fun (selector, _) => "- Empty/invalid ruleset discarded: " ++ selector)
    ++ r.totals.map (fun d => ("- " ++ d.message : Text))

end Report

end UiToolkit
