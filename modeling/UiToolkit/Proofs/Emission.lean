import Mathlib.Tactic.Tauto
import UiToolkit.Proofs.Attempt
import UiToolkit.Proofs.Entries
import UiToolkit.Uss.Converter

/-!
# What a declaration emits

Everything that is known about the conversion of single rules: what a declaration of each sort comes to, and that a kept rule holds the lines of its declarations, put into one table in the order of the declarations.
-/

namespace UiToolkit

open Attempt Text

theorem Fragment.raw_of_ofText? {text : Text} {f : Fragment} (h : ofText? text = some f) : f.raw = trim text := by
  obtain ⟨_, -, rfl⟩ := Option.map_eq_some_iff.mp h
  rfl

theorem Policy.mem_names_of_isNative {policy : Policy} {property : Text} (h : policy.isNative property = true) :
    lower property ∈ policy.properties.names := by
  rw [Policy.isNative, Policy.lookup?, Option.any_eq_true] at h
  obtain ⟨support, hsupport, -⟩ := h
  obtain ⟨before, after, hsplit, -⟩ := List.lookup_eq_some_iff.mp hsupport
  rw [Entries.names, hsplit]
  simp

/-- The names of the table are in lower case and all different, so it is looked up as it is. -/
theorem Policy.properties_bundled : bundled.properties = PropertyTable.bundled := by
  refine Entries.mapNames_eq_self (by decide +kernel) ?_
  -- names are compared as numbers, which is quicker than letter by letter
  refine List.Nodup.of_map (fun name => name.foldl (fun n c => 256 * n + c.toNat) 0) ?_
  decide

theorem Policy.isNative_bundled (property : Text) :
    bundled.isNative property = (PropertyTable.bundled.get? (lower property)).any (·.native) := by
  rw [isNative, lookup?, properties_bundled]

theorem Policy.isKnown_bundled (property : Text) :
    bundled.isKnown property = (PropertyTable.bundled.get? (lower property)).isSome := by
  rw [isKnown, lookup?, properties_bundled]

theorem Policy.bundled_eq : bundled = ⟨PropertyTable.bundled, bundled.denylist⟩ := by
  rw [← properties_bundled]

theorem Text.lower_hyphens (s : Text) : lower ('-' :: '-' :: s) = '-' :: '-' :: lowerAfter false s := by
  rfl

theorem Policy.isPrefixOf_hyphens_of_isNative {property : Text} (h : bundled.isNative property = true) :
    "--".toList.isPrefixOf property = false := by
  by_contra hcustom
  obtain ⟨rest, rfl⟩ : ∃ rest, property = '-' :: '-' :: rest := by
    obtain ⟨rest, hrest⟩ := List.isPrefixOf_iff_prefix.mp (Bool.not_eq_false _ ▸ hcustom)
    exact ⟨rest, hrest.symm⟩
  have hnames : ∀ name ∈ PropertyTable.bundled.names, "--".toList.isPrefixOf name = false := by decide +kernel
  have hmem := mem_names_of_isNative h
  rw [lower_hyphens, properties_bundled] at hmem
  have hnone := hnames _ hmem
  simp at hnone

theorem Filling.replaceAll_of_not_mem {value text : Text} (h : '$' ∉ text) : replaceAll "$value" value text = text := by
  induction text with
  | nil => rw [replaceAll]
  | cons c text ih =>
    simp only [List.mem_cons, not_or] at h
    have hprefix : ("$value".toList.isPrefixOf (c :: text)) = false := by
      change ('$' == c && "value".toList.isPrefixOf text) = false
      rw [beq_false_of_ne h.1, Bool.false_and]
    rw [replaceAll, hprefix, if_neg Bool.false_ne_true, ih h.2]

theorem FallbackTable.mem_rulesFor {table : FallbackTable} {property : Text} {rule : Fallback}
    (h : rule ∈ table.rulesFor property) : ∃ rules, (lower property, rules) ∈ table ∧ rule ∈ rules := by
  unfold rulesFor at h
  cases hget : table.get? (lower property) with
  | none =>
    rw [hget] at h
    cases h
  | some rules =>
    rw [hget] at h
    obtain ⟨before, after, hsplit, -⟩ := List.lookup_eq_some_iff.mp hget
    exact ⟨rules, by simp [hsplit], h⟩

/-- What the table gives for a value comes from the substitutes of one of the rules for the property. -/
theorem FallbackTable.mem_synthesize {table : FallbackTable} {property value : Text} {synthesized : List (Text × Text)}
    (h : table.synthesize property value = .ok synthesized) {target text : Text} (hmem : (target, text) ∈ synthesized) :
    ∃ rules, (lower property, rules) ∈ table ∧ ∃ rule ∈ rules, ∃ s ∈ rule.substitutes,
      target = s.property ∧ ∃ filled, s.filling.fill? value = .ok filled ∧ text = trim (filled.getD []) := by
  unfold synthesize at h
  split at h
  · cases h
    cases hmem
  · rename_i rule hrule
    obtain ⟨filled, hfilled, heq⟩ := bind_eq_ok.mp h
    cases return_eq_ok.mp heq
    obtain ⟨s, hs, hfill⟩ := exists_of_mem_mapM hfilled (List.mem_filter.mp hmem).1
    obtain ⟨result, hresult, heq⟩ := bind_eq_ok.mp hfill
    cases return_eq_ok.mp heq
    obtain ⟨rules, hentry, hrule⟩ := mem_rulesFor (List.mem_of_find?_eq_some hrule)
    exact ⟨rules, hentry, rule, hrule, s, hs, rfl, result, hresult, rfl⟩

namespace Converter

/-- The converter with the tables that come with it. -/
def bundled (config : Config) : Converter := ⟨Policy.bundled, config, FallbackTable.bundled⟩

/-- The lines that a declaration comes to, none when it cannot be converted. -/
def emitted (c : Converter) (d : Declaration) : List (Text × Text) :=
  match c.handle d with
  | .ok h => h.pairs
  | .error _ => []

theorem emitted_of_handle {c : Converter} {d : Declaration} {h : Handling} (hhandle : c.handle d = .ok h) :
    c.emitted d = h.pairs := by
  rw [emitted, hhandle]

theorem handle_custom (c : Converter) {d : Declaration} (hcustom : d.isCustom = true) :
    c.handle d = .ok (.emitted [(d.property, d.text)]) := by
  rw [handle, if_pos hcustom]

theorem handle_unknown (c : Converter) {d : Declaration} (hcustom : d.isCustom = false)
    (hunknown : c.policy.isKnown (renamed d.property) = false) :
    c.handle d = .ok (.unsupported (renamed d.property)) := by
  simp [handle, hcustom, hunknown]

theorem isKnown_of_isNative {policy : Policy} {property : Text} (h : policy.isNative property = true) :
    policy.isKnown property = true := by
  rw [Policy.isNative, Option.any_eq_true] at h
  obtain ⟨support, hsupport, -⟩ := h
  rw [Policy.isKnown, hsupport]
  rfl

theorem handle_native (c : Converter) {d : Declaration} (hcustom : d.isCustom = false)
    (hnative : c.policy.isNative (renamed d.property) = true) :
    c.handle d = (fun text => Handling.emitted (nativePairs (renamed d.property) text)) <$>
      c.translate (renamed d.property) d.text := by
  simp [handle, hcustom, isKnown_of_isNative hnative, hnative]

theorem handle_other (c : Converter) {d : Declaration} (hcustom : d.isCustom = false)
    (hknown : c.policy.isKnown (renamed d.property) = true) (hnative : c.policy.isNative (renamed d.property) = false) :
    c.handle d = (fun pairs => if pairs.isEmpty then Handling.notImplemented (renamed d.property) else .emitted pairs) <$>
      c.substitutes (renamed d.property) d.text := by
  simp [handle, hcustom, hknown, hnative]

theorem pairs_substituted (property : Text) (pairs : List (Text × Text)) :
    (if pairs.isEmpty then Handling.notImplemented property else .emitted pairs).pairs = pairs := by
  cases pairs <;> rfl

/-- A font is written under two names, anything else that is not blank under its own. -/
theorem mem_nativePairs {property translated name value : Text} :
    (name, value) ∈ nativePairs property translated ↔
      value = translated ∧ isBlankText translated = false ∧
        (name = property ∨ property = "-unity-font".toList ∧ name = "-unity-font-definition".toList) := by
  rw [nativePairs]
  cases hblank : isBlankText translated with
  | true => simp only [if_true, List.not_mem_nil, Bool.true_eq_false, false_and, and_false]
  | false =>
    rw [if_neg Bool.false_ne_true]
    by_cases hfont : property = "-unity-font".toList
    · rw [if_pos (beq_iff_eq.mpr hfont)]
      simp only [List.mem_cons, Prod.mk.injEq, List.not_mem_nil, or_false, hfont]
      tauto
    · rw [if_neg (by simpa only [beq_iff_eq] using hfont)]
      simp only [List.mem_singleton, Prod.mk.injEq, hfont, false_and, or_false]
      tauto

/-- The substitutes of a declaration are translations of what the table gives for targets that the policy admits. -/
theorem mem_substitutes {c : Converter} {property value : Text} {pairs : List (Text × Text)} {target text : Text}
    (h : c.substitutes property value = .ok pairs) (hmem : (target, text) ∈ pairs) :
    ∃ synthesized source, c.fallbacks.synthesize property value = .ok synthesized ∧ (target, source) ∈ synthesized ∧
      c.admits property target = true ∧ c.translate target source = .ok text ∧ isBlankText text = false := by
  simp only [substitutes, bind_eq_ok, return_eq_ok] at h
  obtain ⟨synthesized, hsynthesized, translated, htranslated, rfl⟩ := h
  obtain ⟨hmem, hblank⟩ := List.mem_filter.mp hmem
  obtain ⟨⟨name, source⟩, hsource, htranslate⟩ := exists_of_mem_mapM htranslated hmem
  obtain ⟨hsource, hadmits⟩ := List.mem_filter.mp hsource
  obtain ⟨_, htranslate, heq⟩ := bind_eq_ok.mp htranslate
  cases return_eq_ok.mp heq
  exact ⟨synthesized, source, hsynthesized, hsource, hadmits, htranslate, by simpa using hblank⟩

/-- A line is a custom declaration as it stands, the translation of a native one, or a substitute. -/
theorem mem_emitted {c : Converter} {d : Declaration} {name value : Text} (hmem : (name, value) ∈ c.emitted d) :
    (d.isCustom = true ∧ name = d.property ∧ value = d.text) ∨
      (d.isCustom = false ∧ c.policy.isNative (renamed d.property) = true ∧
        c.translate (renamed d.property) d.text = .ok value ∧ isBlankText value = false ∧
        (name = renamed d.property ∨
          renamed d.property = "-unity-font".toList ∧ name = "-unity-font-definition".toList)) ∨
      (d.isCustom = false ∧ c.policy.isKnown (renamed d.property) = true ∧
        c.policy.isNative (renamed d.property) = false ∧
        ∃ pairs, c.substitutes (renamed d.property) d.text = .ok pairs ∧ (name, value) ∈ pairs) := by
  cases hhandle : c.handle d with
  | error e => simp [emitted, hhandle] at hmem
  | ok h =>
    rw [emitted_of_handle hhandle] at hmem
    cases hcustom : d.isCustom with
    | true =>
      rw [handle_custom c hcustom, Except.ok.injEq] at hhandle
      subst hhandle
      cases List.mem_singleton.mp hmem
      exact .inl ⟨rfl, rfl, rfl⟩
    | false =>
      cases hknown : c.policy.isKnown (renamed d.property) with
      | false =>
        rw [handle_unknown c hcustom hknown, Except.ok.injEq] at hhandle
        subst hhandle
        cases hmem
      | true =>
        cases hnative : c.policy.isNative (renamed d.property) with
        | true =>
          rw [handle_native c hcustom hnative, map_eq_ok] at hhandle
          obtain ⟨text, htranslate, rfl⟩ := hhandle
          obtain ⟨rfl, hblank, hname⟩ := mem_nativePairs.mp hmem
          exact .inr (.inl ⟨rfl, rfl, htranslate, hblank, hname⟩)
        | false =>
          rw [handle_other c hcustom hknown hnative, map_eq_ok] at hhandle
          obtain ⟨pairs, hpairs, rfl⟩ := hhandle
          refine .inr (.inr ⟨rfl, rfl, rfl, pairs, hpairs, ?_⟩)
          split at hmem
          · cases hmem
          · exact hmem

/-! ### Kept rules -/

/-- A rule comes to a block with the given header and lines. -/
def Keeps (c : Converter) (r : Rule) (header : List Text) (pairs : Entries Text) : Prop :=
  ∃ v, c.verdict r = .ok v ∧ v.outcome = .kept header pairs

theorem keeps_of_verdict {c : Converter} {r : Rule} {header : List Text} {pairs : Entries Text}
    (h : (c.verdict r).map Verdict.outcome = .ok (.kept header pairs)) : c.Keeps r header pairs :=
  map_apply_eq_ok.mp h

/-- A kept rule has accepted selectors, all of its declarations could be converted, and its lines are theirs. -/
theorem keeps_iff {c : Converter} {r : Rule} {header : List Text} {pairs : Entries Text} :
    c.Keeps r header pairs ↔
      c.header r.selectors = .ok header ∧ (∀ d ∈ r.declarations, Succeeds (c.handle d)) ∧
        pairs = Entries.ofList (r.declarations.flatMap c.emitted) ∧ pairs ≠ [] := by
  simp only [Keeps, verdict]
  cases hheader : c.header r.selectors with
  | error reason =>
    refine ⟨?_, fun h => nomatch h.1⟩
    rintro ⟨v, hv, hkept⟩
    cases hv
    cases hkept
  | ok accepted =>
    simp only [bind_eq_ok, return_eq_ok]
    constructor
    · rintro ⟨_, ⟨handlings, hhandlings, rfl⟩, hkept⟩
      have hlines : r.declarations.flatMap c.emitted = handlings.flatMap Handling.pairs :=
        flatMap_of_forall₂ (mapM_eq_ok.mp hhandlings) fun d h => emitted_of_handle
      simp only [outcome] at hkept
      split at hkept
      · cases hkept
      · rename_i hempty
        cases hkept
        exact ⟨rfl, succeeds_mapM.mp (.of_eq_ok hhandlings), by rw [hlines], by simpa using hempty⟩
    · rintro ⟨haccepted, hall, rfl, hne⟩
      cases haccepted
      obtain ⟨handlings, hhandlings⟩ := succeeds_mapM.mpr hall
      have hlines : r.declarations.flatMap c.emitted = handlings.flatMap Handling.pairs :=
        flatMap_of_forall₂ (mapM_eq_ok.mp hhandlings) fun d h => emitted_of_handle
      refine ⟨_, ⟨handlings, hhandlings, rfl⟩, ?_⟩
      rw [hlines] at hne ⊢
      simp [outcome, hne]

end Converter

end UiToolkit
