import UiToolkit.Proofs.Fates
import UiToolkit.StyleSheet.Source

/-!
# What a report says

Every rule is in a block or among the dropped ones, and every diagnostic has its reason. The lists of names are exact: a name is listed when a surviving rule has a declaration that the policy does not know, or for which nothing stands in, whether or not the rule has lines to write.
-/

namespace UiToolkit

open Attempt Entries Text

/-- All that a diagnostic says. -/
def Diagnostic.record (d : Diagnostic) : Text × Severity × Text × Option Text × List Text :=
  (d.code, d.severity, d.message, d.selector?, d.properties)

theorem Report.record_diagnostics (r : Report) :
    r.diagnostics.map Diagnostic.record =
      r.dropped.map (fun (selector, reason) =>
          ("rule-dropped".toList, .info, "Empty/invalid ruleset discarded: ".toList ++ reason, some selector, []))
        ++ (if r.unsupported = [] then []
          else [("unsupported-property".toList, .warning,
            "UI Toolkit doesn't support: ".toList ++ joinWith ", " r.unsupported, none, r.unsupported)])
        ++ (if r.notImplemented = [] then []
          else [("not-implemented".toList, .info,
            "Not implemented yet: ".toList ++ joinWith ", " r.notImplemented, none, r.notImplemented)]) := by
  obtain ⟨dropped, unsupported, notImplemented⟩ := r
  rw [diagnostics, totals, List.map_append, List.map_append, List.map_map, List.append_assoc]
  congr 2
  · cases unsupported <;> rfl
  · cases notImplemented <;> rfl

namespace Converter

variable {c : Converter} {rules : List Rule} {conv : Conversion}

/-! ### Rules and diagnostics -/

/-- Every rule is in the text or in the report: kept rules are written as one block each, the others have one diagnostic each, both in the order of the rules, and a list of names has a diagnostic when it holds a name. -/
structure AccountsFor (c : Converter) (rules : List Rule) (conv : Conversion) : Prop where
  text : conv.text = (rules.filter c.keeps).flatMap fun r => Outcome.block (c.accepted r) (c.lines r)
  blocks : ∀ r ∈ rules.filter c.keeps, c.accepted r ≠ [] ∧ c.lines r ≠ []
  dropped : conv.report.dropped.map Prod.fst = (rules.filter fun r => !c.keeps r).map Rule.selectorText
  diagnostics : conv.report.diagnostics.map Diagnostic.record =
    (rules.filter fun r => !c.keeps r).map (fun r =>
        ("rule-dropped".toList, .info, "Empty/invalid ruleset discarded: ".toList ++ c.dropReason r,
          some r.selectorText, []))
      ++ (if conv.report.unsupported = [] then []
        else [("unsupported-property".toList, .warning,
          "UI Toolkit doesn't support: ".toList ++ joinWith ", " conv.report.unsupported, none,
          conv.report.unsupported)])
      ++ (if conv.report.notImplemented = [] then []
        else [("not-implemented".toList, .info,
          "Not implemented yet: ".toList ++ joinWith ", " conv.report.notImplemented, none,
          conv.report.notImplemented)])

/-- A conversion accounts for every rule exactly once. -/
theorem accountsFor_of_convertRules (h : c.convertRules rules = .ok conv) : AccountsFor c rules conv := by
  obtain ⟨htext, hdropped, -, -⟩ := conversion_spec h
  refine ⟨htext, ?_, ?_, ?_⟩
  · intro r hr
    obtain ⟨hsurvives, hlines⟩ := Bool.and_eq_true_iff.mp (List.mem_filter.mp hr).2
    exact ⟨accepted_ne_nil hsurvives, by simpa using hlines⟩
  · rw [hdropped, List.map_map]
    rfl
  · rw [Report.record_diagnostics, hdropped, List.map_map]
    rfl

/-! ### Names -/

theorem isKnown_of_unknown? {d : Declaration} {name : Text} (h : c.unknown? d = some name) :
    c.policy.isKnown name = false := by
  unfold unknown? at h
  split at h
  · cases h
  · rename_i hnot
    cases h
    rw [Bool.or_eq_true, not_or] at hnot
    exact Bool.eq_false_iff.mpr hnot.2

theorem isKnown_of_unserved? {d : Declaration} {name : Text} (h : c.unserved? d = some name) :
    c.policy.isKnown name = true ∧ c.policy.isNative name = false := by
  unfold unserved? at h
  split at h
  · rename_i hall
    cases h
    simp only [Bool.and_eq_true, Bool.not_eq_true'] at hall
    exact ⟨hall.1.1.2, hall.1.2⟩
  · cases h

theorem mem_dropped_of_emits_nothing (h : c.convertRules rules = .ok conv) {r : Rule} (hr : r ∈ rules)
    (hsurvives : c.survives r = true) (hnone : r.declarations.flatMap c.emitted = []) :
    (r.selectorText, "no supported declarations".toList) ∈ conv.report.dropped := by
  have hdrops : c.keeps r = false := by
    rw [keeps, lines, hnone]
    exact Bool.and_false _
  have hreason : c.dropReason r = "no supported declarations".toList := by
    rw [dropReason, header_eq_ok_iff.mpr ⟨hsurvives, rfl⟩]
  rw [(conversion_spec h).2.1, ← hreason]
  refine List.mem_map.mpr ⟨r, List.mem_filter.mpr ⟨hr, ?_⟩, rfl⟩
  rw [hdrops]
  rfl

theorem exists_conversion_filter (h : c.convertRules rules = .ok conv) :
    ∃ surviving, c.convertRules (rules.filter c.survives) = .ok surviving ∧
      surviving.report.unsupported = conv.report.unsupported ∧
      surviving.report.notImplemented = conv.report.notImplemented := by
  obtain ⟨verdicts, hverdicts, -⟩ := map_apply_eq_ok.mp h
  have hall : ∀ r ∈ rules, Succeeds (c.verdict r) := succeeds_mapM.mp (.of_eq_ok hverdicts)
  obtain ⟨kept, hkept⟩ : Succeeds ((rules.filter c.survives).mapM c.verdict) :=
    succeeds_mapM.mpr fun r hr => hall r (List.mem_filter.mp hr).1
  have hconv : c.convertRules (rules.filter c.survives) = .ok (conversionOf kept) :=
    map_apply_eq_ok.mpr ⟨kept, hkept, rfl⟩
  obtain ⟨-, -, hunsupported, hnotImplemented⟩ := conversion_spec h
  obtain ⟨-, -, hunsupported', hnotImplemented'⟩ := conversion_spec hconv
  rw [List.filter_filter] at hunsupported' hnotImplemented'
  simp only [Bool.and_self] at hunsupported' hnotImplemented'
  exact ⟨conversionOf kept, hconv, hunsupported'.trans hunsupported.symm, hnotImplemented'.trans hnotImplemented.symm⟩

/-- The names of a report are those of the declarations of surviving rules, each one once and in the order in which they come up. Rules with refused selectors leave no names, rules without lines do. -/
structure ReportsNames (c : Converter) (rules : List Rule) (conv : Conversion) : Prop where
  unsupported : ListsOnce conv.report.unsupported
    ((rules.filter c.survives).flatMap fun r => r.declarations.filterMap c.unknown?)
  notImplemented : ListsOnce conv.report.notImplemented
    ((rules.filter c.survives).flatMap fun r => r.declarations.filterMap c.unserved?)
  disjoint : List.Disjoint conv.report.unsupported conv.report.notImplemented
  notNative : ∀ name ∈ conv.report.unsupported ++ conv.report.notImplemented, c.policy.isNative name = false
  refused : ∃ surviving, c.convertRules (rules.filter c.survives) = .ok surviving ∧
    surviving.report.unsupported = conv.report.unsupported ∧
    surviving.report.notImplemented = conv.report.notImplemented
  withoutLines : ∀ r ∈ rules, c.survives r = true → r.declarations.flatMap c.emitted = [] →
    (r.selectorText, "no supported declarations".toList) ∈ conv.report.dropped ∧
      r.declarations.filterMap c.unknown? ⊆ conv.report.unsupported ∧
      r.declarations.filterMap c.unserved? ⊆ conv.report.notImplemented

/-- A conversion reports the names that it has to report and no others. -/
theorem reportsNames_of_convertRules (h : c.convertRules rules = .ok conv) : ReportsNames c rules conv := by
  obtain ⟨-, -, hunsupported, hnotImplemented⟩ := conversion_spec h
  have hlistsUnknown := listsOnce_distinct ((rules.filter c.survives).flatMap fun r => r.declarations.filterMap c.unknown?)
  have hlistsUnserved := listsOnce_distinct ((rules.filter c.survives).flatMap fun r => r.declarations.filterMap c.unserved?)
  rw [← hunsupported] at hlistsUnknown
  rw [← hnotImplemented] at hlistsUnserved
  have hunknown : ∀ name ∈ conv.report.unsupported, c.policy.isKnown name = false := by
    intro name hname
    obtain ⟨r, -, hmem⟩ := List.mem_flatMap.mp ((hlistsUnknown.mem_iff name).mp hname)
    obtain ⟨d, -, hd⟩ := List.mem_filterMap.mp hmem
    exact isKnown_of_unknown? hd
  have hunserved : ∀ name ∈ conv.report.notImplemented, c.policy.isKnown name = true ∧ c.policy.isNative name = false := by
    intro name hname
    obtain ⟨r, -, hmem⟩ := List.mem_flatMap.mp ((hlistsUnserved.mem_iff name).mp hname)
    obtain ⟨d, -, hd⟩ := List.mem_filterMap.mp hmem
    exact isKnown_of_unserved? hd
  refine ⟨hlistsUnknown, hlistsUnserved, ?_, ?_, exists_conversion_filter h, ?_⟩
  · intro name hleft hright
    exact Bool.false_ne_true ((hunknown name hleft).symm.trans (hunserved name hright).1)
  · intro name hname
    rcases List.mem_append.mp hname with hleft | hright
    · refine Bool.eq_false_iff.mpr fun hnative => ?_
      exact Bool.false_ne_true ((hunknown name hleft).symm.trans (isKnown_of_isNative hnative))
    · exact (hunserved name hright).2
  · intro r hr hsurvives hnone
    have hmem : r ∈ rules.filter c.survives := List.mem_filter.mpr ⟨hr, hsurvives⟩
    refine ⟨mem_dropped_of_emits_nothing h hr hsurvives hnone, ?_, ?_⟩
    · intro name hname
      exact (hlistsUnknown.mem_iff name).mpr (List.mem_flatMap.mpr ⟨r, hmem, hname⟩)
    · intro name hname
      exact (hlistsUnserved.mem_iff name).mpr (List.mem_flatMap.mpr ⟨r, hmem, hname⟩)

/-! ### Rules of every fate -/

/-- One rule has a selector on the denylist, one has no accepted selector, one is kept, and one has nothing to write. -/
def mixedRules : List Rule :=
  Rule.ofSources [⟨"h1 + p, .x", [("zoom", "1")]⟩, ⟨"p::before", [("float", "left")]⟩,
    ⟨".a", [("z-index", "1"), ("float", "left"), ("display", "block"), ("color", "red")]⟩,
    ⟨".b", [("clear", "both"), ("float", "right"), ("z-index", "2")]⟩]

def mixedConversion : Conversion where
  text := ".a \x7b\n    color: red;\n\x7d\n"
  report :=
    { dropped :=
        [("h1 + p, .x", "breaking selector '+'"), ("p::before", "unsupported pseudo-element '::before'"),
          (".b", "no supported declarations")]
      unsupported := ["float", "clear"]
      notImplemented := ["z-index", "display"] }

theorem convertRules_mixedRules : sample.convertRules mixedRules = .ok mixedConversion := by
  decide +kernel

theorem accountsFor_mixedRules :
    sample.convertRules mixedRules = .ok mixedConversion ∧
      AccountsFor sample mixedRules mixedConversion :=
  ⟨convertRules_mixedRules, accountsFor_of_convertRules convertRules_mixedRules⟩

theorem reportsNames_mixedRules :
    sample.convertRules mixedRules = .ok mixedConversion ∧
      ReportsNames sample mixedRules mixedConversion :=
  ⟨convertRules_mixedRules, reportsNames_of_convertRules convertRules_mixedRules⟩

end Converter

end UiToolkit
