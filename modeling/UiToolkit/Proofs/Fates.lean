import UiToolkit.Proofs.Blocks

/-!
# What becomes of the rules

Whether a rule is kept, and with which lines, is told by its selectors and declarations alone. A conversion that has a result is the sum of what becomes of each rule: the blocks of the kept ones, the selectors of the others, and the names that surviving rules leave to the report.
-/

namespace UiToolkit

open Attempt Text

namespace Converter

/-! ### Declarations -/

/-- The name of a declaration, when the policy does not know it. -/
def unknown? (c : Converter) (d : Declaration) : Option Text :=
  if d.isCustom || c.policy.isKnown (renamed d.property) then none else some (renamed d.property)

/-- The name of a declaration, when it is known without being native and no substitute comes out. -/
def unserved? (c : Converter) (d : Declaration) : Option Text :=
  if !d.isCustom && c.policy.isKnown (renamed d.property) && !c.policy.isNative (renamed d.property) &&
      (c.substitutes (renamed d.property) d.text).toOption == some [] then
    some (renamed d.property)
  else none

theorem reported_of_handle {c : Converter} {d : Declaration} {h : Handling} (hhandle : c.handle d = .ok h) :
    h.unsupported? = c.unknown? d ∧ h.notImplemented? = c.unserved? d := by
  unfold unknown? unserved?
  cases hcustom : d.isCustom with
  | true =>
    rw [handle_custom c hcustom, Except.ok.injEq] at hhandle
    subst hhandle
    exact ⟨rfl, rfl⟩
  | false =>
    cases hknown : c.policy.isKnown (renamed d.property) with
    | false =>
      rw [handle_unknown c hcustom hknown, Except.ok.injEq] at hhandle
      subst hhandle
      exact ⟨rfl, rfl⟩
    | true =>
      cases hnative : c.policy.isNative (renamed d.property) with
      | true =>
        rw [handle_native c hcustom hnative, map_eq_ok] at hhandle
        obtain ⟨text, -, rfl⟩ := hhandle
        exact ⟨rfl, rfl⟩
      | false =>
        rw [handle_other c hcustom hknown hnative, map_eq_ok] at hhandle
        obtain ⟨pairs, hpairs, rfl⟩ := hhandle
        rw [hpairs]
        cases pairs with
        | nil => exact ⟨rfl, rfl⟩
        | cons pair pairs => exact ⟨rfl, rfl⟩

/-! ### Rules -/

/-- None of the selectors meets the denylist, and at least one of them is accepted. -/
def survives (c : Converter) (r : Rule) : Bool :=
  r.selectors.all (fun s => !(s.refusal? c.policy).any Refusal.isBreaking) &&
    r.selectors.any fun s => (s.refusal? c.policy).isNone

/-- The accepted selectors, as they are written. -/
def accepted (c : Converter) (r : Rule) : List Text :=
  (r.selectors.filter fun s => (s.refusal? c.policy).isNone).map Selector.rewritten

/-- The lines of the declarations, each property at its first place and with its last value. -/
def lines (c : Converter) (r : Rule) : Entries Text := Entries.ofList (r.declarations.flatMap c.emitted)

/-- The rule survives, and there is a line to write. -/
def keeps (c : Converter) (r : Rule) : Bool := c.survives r && !(c.lines r).isEmpty

/-- Why a rule that is not kept is dropped. -/
def dropReason (c : Converter) (r : Rule) : Text :=
  match c.header r.selectors with
  | .error reason => reason
  | .ok _ => "no supported declarations"

/-- What becomes of a rule whose declarations can all be converted. -/
def fate (c : Converter) (r : Rule) : Outcome :=
  if c.keeps r then .kept (c.accepted r) (c.lines r) else .dropped (c.dropReason r)

theorem isEmpty_accepted (c : Converter) (r : Rule) :
    (c.accepted r).isEmpty = !r.selectors.any fun s => (s.refusal? c.policy).isNone := by
  rw [Bool.eq_iff_iff, accepted, List.isEmpty_map, List.isEmpty_iff, List.filter_eq_nil_iff, Bool.not_eq_true',
    List.any_eq_false]

theorem accepted_ne_nil {c : Converter} {r : Rule} (h : c.survives r = true) : c.accepted r ≠ [] := by
  intro hnil
  have hempty := isEmpty_accepted c r
  rw [hnil, (Bool.and_eq_true_iff.mp h).2] at hempty
  cases hempty

theorem find?_isBreaking_eq_none_iff (c : Converter) (r : Rule) :
    (r.selectors.filterMap (·.refusal? c.policy)).find? Refusal.isBreaking = none ↔
      r.selectors.all (fun s => !(s.refusal? c.policy).any Refusal.isBreaking) = true := by
  rw [List.find?_eq_none, List.all_eq_true]
  constructor
  · intro h s hs
    cases hrefusal : s.refusal? c.policy with
    | none => rfl
    | some refusal => simpa using h refusal (List.mem_filterMap.mpr ⟨s, hs, hrefusal⟩)
  · intro h refusal hmem
    obtain ⟨s, hs, hrefusal⟩ := List.mem_filterMap.mp hmem
    simpa [hrefusal] using h s hs

/-- The accepted selectors are the header exactly when the rule survives. -/
theorem header_eq_ok_iff {c : Converter} {r : Rule} {header : List Text} :
    c.header r.selectors = .ok header ↔ c.survives r = true ∧ header = c.accepted r := by
  rw [survives, Bool.and_eq_true, ← find?_isBreaking_eq_none_iff, ← Bool.not_eq_false', ← isEmpty_accepted]
  unfold Converter.header
  dsimp only
  rw [← accepted]
  cases hfind : (r.selectors.filterMap (·.refusal? c.policy)).find? Refusal.isBreaking with
  | some breaking => simp
  | none =>
    cases hempty : (c.accepted r).isEmpty with
    | false => simp [eq_comm]
    | true =>
      refine ⟨fun h => ?_, fun h => absurd h.1.2 (by decide)⟩
      simp only [Bool.not_true, Bool.false_eq_true, if_false] at h
      split at h <;> cases h

/-! ### One rule -/

/-- What a verdict holds is told by the rule: its fate, and the reported names of its declarations if it survives. -/
theorem verdict_spec {c : Converter} {r : Rule} {v : Verdict} (h : c.verdict r = .ok v) :
    v.selector = r.selectorText ∧ v.outcome = c.fate r ∧
      v.handlings.filterMap Handling.unsupported? = (if c.survives r then r.declarations.filterMap c.unknown? else []) ∧
      v.handlings.filterMap Handling.notImplemented? =
        (if c.survives r then r.declarations.filterMap c.unserved? else []) := by
  rw [verdict] at h
  cases hheader : c.header r.selectors with
  | error reason =>
    have hnot : c.survives r = false := by
      refine Bool.eq_false_iff.mpr fun hsurvives => ?_
      cases hheader.symm.trans (header_eq_ok_iff.mpr ⟨hsurvives, rfl⟩)
    rw [hheader] at h
    cases h
    refine ⟨rfl, ?_, ?_, ?_⟩
    · rw [fate, keeps, hnot, dropReason, hheader]
      rfl
    · rw [hnot]
      rfl
    · rw [hnot]
      rfl
  | ok header =>
    obtain ⟨hsurvives, rfl⟩ := header_eq_ok_iff.mp hheader
    rw [hheader] at h
    obtain ⟨handlings, hhandlings, hv⟩ := bind_eq_ok.mp h
    cases return_eq_ok.mp hv
    have hall := mapM_eq_ok.mp hhandlings
    have hlines : c.lines r = Entries.ofList (handlings.flatMap Handling.pairs) :=
      congrArg Entries.ofList (flatMap_of_forall₂ hall fun d h => emitted_of_handle)
    rw [hsurvives]
    refine ⟨rfl, ?_, ?_, ?_⟩
    · rw [fate, keeps, hsurvives, dropReason, hheader, hlines, outcome]
      cases (Entries.ofList (handlings.flatMap Handling.pairs)).isEmpty <;> rfl
    · exact (filterMap_of_forall₂ hall fun d h hhandle => (reported_of_handle hhandle).1.symm).symm
    · exact (filterMap_of_forall₂ hall fun d h hhandle => (reported_of_handle hhandle).2.symm).symm

/-! ### A whole conversion -/

theorem flatMap_filter {α β : Type} (p : α → Bool) (f : α → List β) (as : List α) :
    (as.filter p).flatMap f = as.flatMap fun a => if p a then f a else [] := by
  induction as with
  | nil => rfl
  | cons a as ih =>
    rw [List.filter_cons, List.flatMap_cons, ← ih]
    split <;> simp

/-- A conversion is told by its rules: the kept ones are written, the others dropped, and the surviving ones reported. -/
theorem conversion_spec {c : Converter} {rules : List Rule} {conv : Conversion} (h : c.convertRules rules = .ok conv) :
    conv.text = (rules.filter c.keeps).flatMap (fun r => Outcome.block (c.accepted r) (c.lines r)) ∧
      conv.report.dropped = (rules.filter fun r => !c.keeps r).map (fun r => (r.selectorText, c.dropReason r)) ∧
      conv.report.unsupported =
        Entries.distinct ((rules.filter c.survives).flatMap fun r => r.declarations.filterMap c.unknown?) ∧
      conv.report.notImplemented =
        Entries.distinct ((rules.filter c.survives).flatMap fun r => r.declarations.filterMap c.unserved?) := by
  obtain ⟨verdicts, hverdicts, rfl⟩ := map_apply_eq_ok.mp h
  have hall := mapM_eq_ok.mp hverdicts
  rw [conversionOf, reportOf]
  refine ⟨?_, ?_, ?_, ?_⟩
  · rw [flatMap_filter]
    refine (flatMap_of_forall₂ hall fun r v hv => ?_).symm
    rw [(verdict_spec hv).2.1, fate]
    split <;> rfl
  · rw [← List.filterMap_eq_map, List.filterMap_filter]
    refine (filterMap_of_forall₂ hall fun r v hv => ?_).symm
    rw [(verdict_spec hv).1, (verdict_spec hv).2.1, fate]
    cases c.keeps r <;> rfl
  · refine congrArg Entries.distinct ?_
    rw [flatMap_filter]
    exact (flatMap_of_forall₂ hall fun r v hv => (verdict_spec hv).2.2.1.symm).symm
  · refine congrArg Entries.distinct ?_
    rw [flatMap_filter]
    exact (flatMap_of_forall₂ hall fun r v hv => (verdict_spec hv).2.2.2.symm).symm

theorem blocks_eq {c : Converter} {rules : List Rule} (hall : ∀ r ∈ rules, Succeeds (c.verdict r)) :
    c.blocks rules = (rules.filter c.keeps).map fun r => ⟨c.accepted r, c.lines r⟩ := by
  rw [← List.filterMap_eq_map, List.filterMap_filter, blocks]
  refine List.filterMap_congr fun r hr => ?_
  obtain ⟨v, hv⟩ := hall r hr
  rw [hv, Except.toOption, Option.bind_some, (verdict_spec hv).2.1, fate]
  split <;> rfl

/-- A converter that knows four properties, two of them native, and one asset. -/
def sample : Converter where
  policy := .ofTables
    [("color", ⟨true, false, none, none⟩), ("-unity-font", ⟨true, false, none, none⟩),
      ("z-index", ⟨false, false, none, none⟩), ("display", ⟨false, false, none, none⟩)] ["+"]
  config := ⟨[("roboto", "Assets/Roboto.ttf")], false, none⟩
  fallbacks := .bundled

end Converter

end UiToolkit
