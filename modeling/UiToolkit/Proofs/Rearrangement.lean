import UiToolkit.Proofs.Independence
import UiToolkit.Proofs.Overflow

/-!
# Selectors of a rule act independently

A selector that is refused without meeting the denylist leaves the rest of its rule alone. So whether a rule survives and what its declarations come to is told by the other selectors, in whatever order they stand, and a rule that is kept has those of them for a header that are accepted.
-/

namespace UiToolkit

open Attempt Text

namespace Selector

/-- The selector is refused without meeting the denylist, so its rule does not go with it. -/
def isPassedOver (policy : Policy) (s : Selector) : Bool := (s.refusal? policy).any fun refusal => !refusal.isBreaking

/-- The lists have the same selectors up to their order, but for those that are passed over. -/
inductive Rearranged (policy : Policy) : List Selector → List Selector → Prop where
  | permuted {A B : List Selector} : A.Perm B → Rearranged policy A B
  | added {s : Selector} {A B : List Selector} : s.isPassedOver policy = true → Rearranged policy (A ++ B) (A ++ s :: B)
  | removed {s : Selector} {A B : List Selector} : s.isPassedOver policy = true → Rearranged policy (A ++ s :: B) (A ++ B)
  | trans {A B C : List Selector} : Rearranged policy A B → Rearranged policy B C → Rearranged policy A C

/-- The selectors that are not passed over. -/
def counting (policy : Policy) (A : List Selector) : List Selector := A.filter fun s => !s.isPassedOver policy

variable {policy : Policy} {A B : List Selector} {s : Selector}

theorem counting_insert (h : s.isPassedOver policy = true) (A B : List Selector) :
    counting policy (A ++ s :: B) = counting policy (A ++ B) := by
  rw [counting, counting, List.filter_append, List.filter_append, List.filter_cons_of_neg]
  rw [h]
  exact Bool.false_ne_true

theorem Rearranged.counting_perm (h : Rearranged policy A B) : (counting policy A).Perm (counting policy B) := by
  induction h with
  | permuted hperm => exact hperm.filter _
  | added hs => rw [counting_insert hs]
  | removed hs => rw [counting_insert hs]
  | trans _ _ ihAB ihBC => exact ihAB.trans ihBC

theorem Rearranged.symm (h : Rearranged policy A B) : Rearranged policy B A := by
  induction h with
  | permuted hperm => exact .permuted hperm.symm
  | added hs => exact .removed hs
  | removed hs => exact .added hs
  | trans _ _ ihAB ihBC => exact .trans ihBC ihAB

/-- One after the other, all that are passed over can be removed. -/
theorem rearranged_counting (policy : Policy) (A B : List Selector) :
    Rearranged policy (A ++ B) (A ++ counting policy B) := by
  induction B generalizing A with
  | nil => exact .permuted (List.Perm.refl _)
  | cons s B ih =>
    rw [counting, List.filter_cons]
    split
    · rw [List.append_cons A s B, List.append_cons A s (List.filter _ B)]
      exact ih (A ++ [s])
    · rename_i hcounts
      refine .trans (.removed ?_) (ih A)
      exact (Bool.not_eq_false' _).mp (Bool.eq_false_of_not_eq_true hcounts)

/-- Only the selectors that are not passed over matter, and only up to their order. -/
theorem rearranged_iff : Rearranged policy A B ↔ (counting policy A).Perm (counting policy B) := by
  refine ⟨Rearranged.counting_perm, fun hperm => ?_⟩
  exact (rearranged_counting policy [] A).trans (.trans (.permuted hperm) (rearranged_counting policy [] B).symm)

/-! ### Verdicts on the selectors -/

theorem isNone_counting (s : Selector) :
    ((s.refusal? policy).isNone && !s.isPassedOver policy) = (s.refusal? policy).isNone := by
  rw [isPassedOver]
  cases s.refusal? policy <;> rfl

theorem filter_counting (A : List Selector) :
    (counting policy A).filter (fun s => (s.refusal? policy).isNone) = A.filter fun s => (s.refusal? policy).isNone := by
  rw [counting, List.filter_filter]
  simp only [isNone_counting]

theorem all_counting (A : List Selector) :
    (counting policy A).all (fun s => !(s.refusal? policy).any Refusal.isBreaking) =
      A.all fun s => !(s.refusal? policy).any Refusal.isBreaking := by
  have hbreaking : ∀ s : Selector,
      (!(!s.isPassedOver policy) || !(s.refusal? policy).any Refusal.isBreaking) = !(s.refusal? policy).any Refusal.isBreaking := by
    intro s
    rw [isPassedOver]
    cases s.refusal? policy with
    | none => rfl
    | some refusal =>
      rw [Option.any_some, Option.any_some]
      cases refusal.isBreaking <;> rfl
  rw [counting, List.all_filter]
  simp only [hbreaking]

theorem Rearranged.accepted_perm (h : Rearranged policy A B) :
    (A.filter fun s => (s.refusal? policy).isNone).Perm (B.filter fun s => (s.refusal? policy).isNone) := by
  rw [← filter_counting A, ← filter_counting B]
  exact h.counting_perm.filter _

theorem Rearranged.all_eq (h : Rearranged policy A B) :
    A.all (fun s => !(s.refusal? policy).any Refusal.isBreaking) =
      B.all fun s => !(s.refusal? policy).any Refusal.isBreaking := by
  rw [← all_counting A, ← all_counting B]
  exact h.counting_perm.all_eq

end Selector

namespace Converter

open Selector

/-! ### Conversions taken apart -/

theorem convertRules_append_eq_ok {c : Converter} {first second : List Rule} {conv : Conversion} :
    c.convertRules (first ++ second) = .ok conv ↔
      ∃ a b, c.convertRules first = .ok a ∧ c.convertRules second = .ok b ∧ a.append b = conv := by
  rw [convertRules_append]
  constructor
  · intro h
    obtain ⟨a, ha, hrest⟩ := bind_eq_ok.mp h
    obtain ⟨b, hb, hreturn⟩ := bind_eq_ok.mp hrest
    exact ⟨a, b, ha, hb, return_eq_ok.mp hreturn⟩
  · rintro ⟨a, b, ha, hb, rfl⟩
    rw [ha, hb]
    rfl

theorem convertRules_insert_eq_ok {c : Converter} {before after : List Rule} {r : Rule} {conv : Conversion} :
    c.convertRules (before ++ r :: after) = .ok conv ↔
      ∃ a k b, c.convertRules before = .ok a ∧ c.convertRules [r] = .ok k ∧ c.convertRules after = .ok b ∧
        a.append (k.append b) = conv := by
  rw [convertRules_append_eq_ok]
  constructor
  · rintro ⟨a, rest, ha, hrest, rfl⟩
    obtain ⟨k, b, hk, hb, rfl⟩ := convertRules_append_eq_ok.mp (List.singleton_append ▸ hrest)
    exact ⟨a, k, b, ha, hk, hb, rfl⟩
  · rintro ⟨a, k, b, ha, hk, hb, rfl⟩
    exact ⟨a, k.append b, ha, List.singleton_append ▸ convertRules_append_eq_ok.mpr ⟨k, b, hk, hb, rfl⟩, rfl⟩

theorem text_convertRules_singleton {c : Converter} {r : Rule} {k : Conversion} (hk : c.convertRules [r] = .ok k) :
    k.text = if c.keeps r then Outcome.block (c.accepted r) (c.lines r) else [] := by
  rw [(conversion_spec hk).1, flatMap_filter, List.flatMap_singleton]

section Rearranged

variable {c : Converter} {r r' : Rule} (hdeclarations : r'.declarations = r.declarations)
  (hselectors : Rearranged c.policy r.selectors r'.selectors)

/-! ### One rule -/

include hselectors in
theorem accepted_perm_of_rearranged : (c.accepted r').Perm (c.accepted r) :=
  (hselectors.accepted_perm.map Selector.rewritten).symm

omit hdeclarations hselectors in
theorem accepted_of_counting_eq (h : counting c.policy r'.selectors = counting c.policy r.selectors) :
    c.accepted r' = c.accepted r := by
  rw [accepted, accepted, ← filter_counting, h, filter_counting]

include hselectors in
theorem survives_of_rearranged : c.survives r' = c.survives r := by
  have hany : (r'.selectors.any fun s => (s.refusal? c.policy).isNone) = r.selectors.any fun s => (s.refusal? c.policy).isNone := by
    apply Bool.not_inj
    rw [← isEmpty_accepted, ← isEmpty_accepted]
    exact (accepted_perm_of_rearranged hselectors).isEmpty_eq
  rw [survives, survives, hany, hselectors.all_eq]

include hdeclarations in
theorem lines_of_declarations_eq : c.lines r' = c.lines r := by
  rw [lines, lines, hdeclarations]

include hdeclarations hselectors

theorem keeps_of_rearranged : c.keeps r' = c.keeps r := by
  rw [keeps, keeps, survives_of_rearranged hselectors, lines_of_declarations_eq hdeclarations]

theorem succeeds_verdict_of_rearranged (h : Succeeds (c.verdict r)) : Succeeds (c.verdict r') := by
  rw [verdict_succeeds_iff] at h ⊢
  rintro ⟨header, hheader⟩
  obtain ⟨hsurvives, -⟩ := header_eq_ok_iff.mp hheader
  rw [hdeclarations]
  rw [survives_of_rearranged hselectors] at hsurvives
  exact h (.of_eq_ok (header_eq_ok_iff.mpr ⟨hsurvives, rfl⟩))

/-- Both rules come to a conversion or none, and with the same names in the report. -/
theorem exists_conversion_of_rearranged {k : Conversion} (hk : c.convertRules [r] = .ok k) :
    ∃ k', c.convertRules [r'] = .ok k' ∧ k'.report.unsupported = k.report.unsupported ∧
      k'.report.notImplemented = k.report.notImplemented := by
  have hverdict : Succeeds (c.verdict r') := by
    obtain ⟨verdicts, hverdicts, -⟩ := map_apply_eq_ok.mp hk
    apply succeeds_verdict_of_rearranged hdeclarations hselectors
    exact succeeds_mapM.mp (.of_eq_ok hverdicts) r (List.mem_singleton_self r)
  obtain ⟨verdicts', hverdicts'⟩ : Succeeds ([r'].mapM c.verdict) := by
    rw [succeeds_mapM, List.forall_mem_singleton]
    exact hverdict
  have hk' : c.convertRules [r'] = .ok (conversionOf verdicts') := map_apply_eq_ok.mpr ⟨verdicts', hverdicts', rfl⟩
  obtain ⟨-, -, hunsupported, hnotImplemented⟩ := conversion_spec hk
  obtain ⟨-, -, hunsupported', hnotImplemented'⟩ := conversion_spec hk'
  have hreported : ∀ name? : Declaration → Option Text,
      (([r'].filter c.survives).flatMap fun r => r.declarations.filterMap name?) =
        ([r].filter c.survives).flatMap fun r => r.declarations.filterMap name? := by
    intro name?
    rw [flatMap_filter, flatMap_filter, List.flatMap_singleton, List.flatMap_singleton,
      survives_of_rearranged hselectors, hdeclarations]
  refine ⟨_, hk', ?_, ?_⟩
  · rw [hunsupported, hunsupported', hreported]
  · rw [hnotImplemented, hnotImplemented', hreported]

end Rearranged

/-! ### A rule among others -/

/--
Two rules with the same declarations are converted alike in any place of a style sheet, when the selectors of one are those of the other in any order and with others put in or left out that are refused without meeting the denylist. Both are kept or neither is, the lines of their blocks are the same, and so are the names in the report; the headers are made of the same texts, each in the order of its own selectors. So without a change of order the whole text is the same.
-/
theorem selectors_independent {c : Converter} {r r' : Rule} {before after : List Rule} {conv : Conversion}
    (hdeclarations : r'.declarations = r.declarations) (hselectors : Rearranged c.policy r.selectors r'.selectors)
    (hconv : c.convertRules (before ++ r :: after) = .ok conv) :
    ∃ a b conv', c.convertRules before = .ok a ∧ c.convertRules after = .ok b ∧
      c.convertRules (before ++ r' :: after) = .ok conv' ∧ c.keeps r' = c.keeps r ∧
      conv.text = a.text ++ (if c.keeps r then Outcome.block (c.accepted r) (c.lines r) else []) ++ b.text ∧
      conv'.text = a.text ++ (if c.keeps r then Outcome.block (c.accepted r') (c.lines r) else []) ++ b.text ∧
      (c.accepted r').Perm (c.accepted r) ∧
      (counting c.policy r'.selectors = counting c.policy r.selectors → conv'.text = conv.text) ∧
      conv'.report.unsupported = conv.report.unsupported ∧
      conv'.report.notImplemented = conv.report.notImplemented := by
  obtain ⟨a, k, b, ha, hk, hb, rfl⟩ := convertRules_insert_eq_ok.mp hconv
  obtain ⟨k', hk', hunsupported, hnotImplemented⟩ := exists_conversion_of_rearranged hdeclarations hselectors hk
  have hconv' := convertRules_insert_eq_ok.mpr ⟨a, k', b, ha, hk', hb, rfl⟩
  have hkeeps := keeps_of_rearranged hdeclarations hselectors
  have htext : (a.append (k.append b)).text =
      a.text ++ (if c.keeps r then Outcome.block (c.accepted r) (c.lines r) else []) ++ b.text := by
    rw [← text_convertRules_singleton hk, List.append_assoc]
    rfl
  have htext' : (a.append (k'.append b)).text =
      a.text ++ (if c.keeps r then Outcome.block (c.accepted r') (c.lines r) else []) ++ b.text := by
    rw [← hkeeps, ← lines_of_declarations_eq hdeclarations, ← text_convertRules_singleton hk', List.append_assoc]
    rfl
  refine ⟨a, b, _, ha, hb, hconv', hkeeps, htext, htext', accepted_perm_of_rearranged hselectors, fun hcounting => ?_, ?_, ?_⟩
  · rw [htext, htext', accepted_of_counting_eq hcounting]
  · simp only [Conversion.append, Report.append, hunsupported]
  · simp only [Conversion.append, Report.append, hnotImplemented]

/-! ### Two accepted selectors among refused ones -/

def headingDeclarations : List Declaration :=
  RuleSource.declared ⟨[], [("color", "red"), ("float", "left"), ("z-index", "1")]⟩

def headingRule : Rule := ⟨RuleSource.selectors "div.card, p::before, h1", headingDeclarations⟩

/-- The accepted selectors change places, the refused one is gone, and there are two others. -/
def reorderedRule : Rule := ⟨RuleSource.selectors "a:visited, h1, %b, div.card", headingDeclarations⟩

def headingConversion : Conversion where
  text := ".a \x7b\n    color: red;\n\x7d\nVisualElement.card, Label \x7b\n    color: red;\n\x7d\n"
  report :=
    { dropped := [("p::before", "unsupported pseudo-element '::before'"), (".b", "no supported declarations")]
      unsupported := ["float", "clear"]
      notImplemented := ["z-index"] }

theorem selectors_independent_headingRule :
    Rearranged sample.policy headingRule.selectors reorderedRule.selectors ∧
      sample.convertRules (firstRules ++ headingRule :: secondRules) = .ok headingConversion ∧
      ∃ conv, sample.convertRules (firstRules ++ reorderedRule :: secondRules) = .ok conv ∧
        conv.text = ".a \x7b\n    color: red;\n\x7d\nLabel, VisualElement.card \x7b\n    color: red;\n\x7d\n".toList ∧
        conv.report.unsupported = ["float".toList, "clear".toList] ∧ conv.report.notImplemented = ["z-index".toList] := by
  have hdeclarations : reorderedRule.declarations = headingRule.declarations := rfl
  have hselectors : Rearranged sample.policy headingRule.selectors reorderedRule.selectors :=
    rearranged_iff.mpr (by decide +kernel)
  have hconv : sample.convertRules (firstRules ++ headingRule :: secondRules) = .ok headingConversion := by
    decide +kernel
  obtain ⟨a, b, conv', ha, hb, hconv', -, -, htext, -, -, hunsupported, hnotImplemented⟩ :=
    selectors_independent hdeclarations hselectors hconv
  obtain rfl := Except.ok.inj (ha.symm.trans convertRules_firstRules)
  obtain rfl := Except.ok.inj (hb.symm.trans convertRules_secondRules)
  refine ⟨hselectors, hconv, conv', hconv', ?_, hunsupported, hnotImplemented⟩
  rw [htext]
  decide +kernel

end Converter

end UiToolkit
