import UiToolkit.Proofs.Fates
import UiToolkit.StyleSheet.Source

/-!
# Rules are converted on their own

The conversion of two lists of rules, one after the other, is put together from their conversions. Texts and dropped rules follow each other; of the names in the second report, those are added that the first one does not have. So no rule changes what another one comes to, and the conversion of the whole has a result exactly when both parts have one.
-/

namespace UiToolkit

open Attempt Text

namespace Report

/-- The reports of two conversions, one after the other. -/
def append (a b : Report) : Report where
  dropped := a.dropped ++ b.dropped
  unsupported := a.unsupported ++ b.unsupported.filter (· ∉ a.unsupported)
  notImplemented := a.notImplemented ++ b.notImplemented.filter (· ∉ a.notImplemented)

/-- The diagnostics for dropped rules. -/
def drops (r : Report) : List Diagnostic := r.diagnostics.filter (·.code == "rule-dropped".toList)

theorem drops_eq (r : Report) : r.drops = r.dropped.map fun (selector, reason) => .ruleDropped selector reason := by
  have htotals : r.totals.filter (·.code == "rule-dropped".toList) = [] := by
    rw [totals]
    cases r.unsupported <;> cases r.notImplemented <;> rfl
  have hdropped : ∀ d ∈ r.dropped.map (fun (selector, reason) => Diagnostic.ruleDropped selector reason),
      (d.code == "rule-dropped".toList) = true := by
    intro d hd
    obtain ⟨pair, -, rfl⟩ := List.mem_map.mp hd
    rfl
  rw [drops, diagnostics, List.filter_append, htotals, List.append_nil, List.filter_eq_self.mpr hdropped]

theorem drops_append (a b : Report) : (a.append b).drops = a.drops ++ b.drops := by
  rw [drops_eq, drops_eq, drops_eq, append, List.map_append]

end Report

namespace Conversion

def append (a b : Conversion) : Conversion := ⟨a.text ++ b.text, a.report.append b.report⟩

end Conversion

namespace Converter

theorem conversionOf_append (vs ws : List Verdict) :
    conversionOf (vs ++ ws) = (conversionOf vs).append (conversionOf ws) := by
  have htext : (vs ++ ws).flatMap (·.outcome.text) = vs.flatMap (·.outcome.text) ++ ws.flatMap (·.outcome.text) :=
    List.flatMap_append
  have hreport : reportOf (vs ++ ws) = (reportOf vs).append (reportOf ws) := by
    simp only [reportOf, List.flatMap_append, List.filterMap_append, Entries.distinct_append]
    rfl
  rw [conversionOf, htext, hreport]
  rfl

/-- The conversion of a list of rules is that of its parts, put together. -/
theorem convertRules_append (c : Converter) (first second : List Rule) :
    c.convertRules (first ++ second) =
      (do return (← c.convertRules first).append (← c.convertRules second)) := by
  rw [convertRules, convertRules, convertRules, List.mapM_append]
  cases first.mapM c.verdict with
  | error e => rfl
  | ok vs =>
    cases second.mapM c.verdict with
    | error e => rfl
    | ok ws => exact congrArg Except.ok (conversionOf_append vs ws)

theorem text_convertRules_flatMap {α : Type} (c : Converter) (parts : List α) (rules : α → List Rule) :
    (c.convertRules (parts.flatMap rules)).map Conversion.text =
      (parts.mapM fun part => (c.convertRules (rules part)).map Conversion.text).map List.flatten := by
  induction parts with
  | nil => rfl
  | cons part parts ih =>
    rw [List.flatMap_cons, convertRules_append, List.mapM_cons]
    cases c.convertRules (rules part) with
    | error e => rfl
    | ok first =>
      revert ih
      cases c.convertRules (parts.flatMap rules) <;> cases parts.mapM fun part => (c.convertRules (rules part)).map Conversion.text
      case ok.ok rest texts => exact fun ih => congrArg (Except.ok <| first.text ++ ·) (Except.ok.inj ih)
      case error.error => exact fun ih => congrArg Except.error (Except.error.inj ih)
      all_goals exact fun ih => nomatch ih

/-- Rules are converted independently of what stands before and after them. -/
theorem rules_converted_independently {c : Converter} {first second : List Rule} {a b : Conversion}
    (ha : c.convertRules first = .ok a) (hb : c.convertRules second = .ok b) :
    ∃ conv, c.convertRules (first ++ second) = .ok conv ∧
      conv.text = a.text ++ b.text ∧
      conv.report.dropped = a.report.dropped ++ b.report.dropped ∧
      conv.report.diagnostics.filter (·.code == "rule-dropped".toList) =
        a.report.diagnostics.filter (·.code == "rule-dropped".toList) ++
          b.report.diagnostics.filter (·.code == "rule-dropped".toList) ∧
      conv.report.unsupported =
        a.report.unsupported ++ b.report.unsupported.filter (· ∉ a.report.unsupported) ∧
      conv.report.notImplemented =
        a.report.notImplemented ++ b.report.notImplemented.filter (· ∉ a.report.notImplemented) := by
  refine ⟨a.append b, ?_, rfl, rfl, Report.drops_append a.report b.report, rfl, rfl⟩
  rw [convertRules_append, ha, hb]
  rfl

/-! ### Two lists of rules that share names -/

def firstRules : List Rule :=
  Rule.ofSources [⟨".a", [("float", "left"), ("z-index", "1"), ("color", "red")]⟩, ⟨"p::before", [("zoom", "1")]⟩]

def secondRules : List Rule := Rule.ofSources [⟨".b", [("clear", "both"), ("float", "right"), ("z-index", "2")]⟩]

def firstConversion : Conversion :=
  ⟨".a \x7b\n    color: red;\n\x7d\n", [("p::before", "unsupported pseudo-element '::before'")], ["float"], ["z-index"]⟩

def secondConversion : Conversion := ⟨[], [(".b", "no supported declarations")], ["clear", "float"], ["z-index"]⟩

theorem convertRules_firstRules : sample.convertRules firstRules = .ok firstConversion := by
  decide +kernel

theorem convertRules_secondRules : sample.convertRules secondRules = .ok secondConversion := by
  decide +kernel

/-- Of the names in the second report only `clear` is new. -/
theorem rules_converted_independently_sharedNames :
    sample.convertRules firstRules = .ok firstConversion ∧ sample.convertRules secondRules = .ok secondConversion ∧
      ∃ conv, sample.convertRules (firstRules ++ secondRules) = .ok conv ∧
        conv.text = firstConversion.text ∧
        conv.report.dropped.map Prod.fst = ["p::before".toList, ".b".toList] ∧
        conv.report.unsupported = ["float".toList, "clear".toList] ∧
        conv.report.notImplemented = ["z-index".toList] := by
  obtain ⟨conv, hconv, htext, hdropped, -, hunsupported, hnotImplemented⟩ :=
    rules_converted_independently convertRules_firstRules convertRules_secondRules
  refine ⟨convertRules_firstRules, convertRules_secondRules, conv, hconv, htext.trans (List.append_nil _), ?_, ?_, ?_⟩
  · rw [hdropped]
    rfl
  · rw [hunsupported]
    decide
  · rw [hnotImplemented]
    decide

end Converter

end UiToolkit
