import UiToolkit.Proofs.Precedence
import UiToolkit.Proofs.Reemission

/-!
# Properties that stand for the same property

The substitutes of a declaration go into the block of their rule under the names of their targets. A few properties that USS lacks share a target with another one, and of two such declarations only the later one is seen in the block. Nothing else takes the place of a substitute but a declaration of its target, or one of the same property.
-/

namespace UiToolkit

open Attempt Text

namespace FallbackTable

/-- The targets that two properties have in common, with these properties. -/
def sharedTargets : List (Text × Text × Text) :=
  [("-unity-font-style", "font-weight", "font-style"), ("flex-direction", "display", "flex-flow")]

def AreRivals (target property other : Text) : Prop :=
  (target, property, other) ∈ sharedTargets ∨ (target, other, property) ∈ sharedTargets

instance (target property other : Text) : Decidable (AreRivals target property other) :=
  inferInstanceAs (Decidable (_ ∨ _))

theorem eq_or_areRivals : ∀ entry ∈ bundled, ∀ rule ∈ entry.2, ∀ s ∈ rule.substitutes,
    ∀ entry' ∈ bundled, ∀ rule' ∈ entry'.2, ∀ s' ∈ rule'.substitutes, s.property = s'.property →
      entry'.1 = entry.1 ∨ AreRivals s.property entry.1 entry'.1 := by
  decide

theorem nodup_targets : ∀ entry ∈ bundled, ∀ rule ∈ entry.2, (rule.substitutes.map Substitute.property).Nodup := by
  decide

theorem target_cases : ∀ entry ∈ bundled, (∀ c ∈ entry.1, c.toNat < 128) ∧ ∀ rule ∈ entry.2, ∀ s ∈ rule.substitutes,
    "--".toList.isPrefixOf s.property = false ∧ s.property ≠ "-unity-font-definition".toList := by
  decide

theorem names_synthesize {table : FallbackTable} {property value : Text} {synthesized : List (Text × Text)}
    (h : table.synthesize property value = .ok synthesized) :
    synthesized = [] ∨ ∃ rules, (lower property, rules) ∈ table ∧
      ∃ rule ∈ rules, (Entries.names synthesized).Sublist (rule.substitutes.map Substitute.property) := by
  unfold synthesize at h
  split at h
  · cases h
    exact .inl rfl
  · rename_i rule hrule
    obtain ⟨filled, hfilled, heq⟩ := bind_eq_ok.mp h
    cases return_eq_ok.mp heq
    obtain ⟨rules, hentry, hrule⟩ := mem_rulesFor (List.mem_of_find?_eq_some hrule)
    have hnames : Entries.names filled = rule.substitutes.map Substitute.property := by
      refine (map_of_forall₂ (mapM_eq_ok.mp hfilled) fun s pair hpair => ?_).symm
      obtain ⟨result, -, heq⟩ := bind_eq_ok.mp hpair
      cases return_eq_ok.mp heq
      rfl
    exact .inr ⟨rules, hentry, rule, hrule, hnames ▸ List.filter_sublist.map Prod.fst⟩

end FallbackTable

namespace Converter

theorem names_substitutes {c : Converter} {property value : Text} {pairs : List (Text × Text)}
    (h : c.substitutes property value = .ok pairs) :
    ∃ synthesized, c.fallbacks.synthesize property value = .ok synthesized ∧
      (Entries.names pairs).Sublist (Entries.names synthesized) := by
  simp only [substitutes, bind_eq_ok, return_eq_ok] at h
  obtain ⟨synthesized, hsynthesized, translated, htranslated, rfl⟩ := h
  have hnames : Entries.names translated =
      Entries.names (synthesized.filter fun pair => c.admits property pair.1) := by
    refine (map_of_forall₂ (mapM_eq_ok.mp htranslated) fun source pair hpair => ?_).symm
    obtain ⟨text, -, heq⟩ := bind_eq_ok.mp hpair
    cases return_eq_ok.mp heq
    rfl
  have hshown : (Entries.names (translated.filter fun pair => !isBlankText pair.2)).Sublist (Entries.names translated) :=
    List.filter_sublist.map Prod.fst
  rw [hnames] at hshown
  exact ⟨synthesized, hsynthesized, hshown.trans (List.filter_sublist.map Prod.fst)⟩

theorem exists_substitutes_of_mem_emitted {c : Converter} {d : Declaration} (hcustom : d.isCustom = false)
    (hother : c.policy.isNative (renamed d.property) = false) {target value : Text} (hmem : (target, value) ∈ c.emitted d) :
    c.substitutes (renamed d.property) d.text = .ok (c.emitted d) := by
  rcases mem_emitted hmem with ⟨hcustom', -⟩ | ⟨-, hnative, -⟩ | ⟨-, hknown, -, pairs, hpairs, -⟩
  · rw [hcustom] at hcustom'
    cases hcustom'
  · rw [hother] at hnative
    cases hnative
  · have hhandle := handle_other c hcustom hknown hother
    rw [hpairs] at hhandle
    rw [emitted_of_handle hhandle, pairs_substituted, hpairs]

theorem exists_target_of_mem_emitted {config : Config} {d : Declaration} (hcustom : d.isCustom = false)
    (hother : Policy.bundled.isNative (renamed d.property) = false) {target value : Text}
    (hmem : (target, value) ∈ (bundled config).emitted d) :
    ∃ rules, (renamed d.property, rules) ∈ FallbackTable.bundled ∧
      ∃ rule ∈ rules, ∃ s ∈ rule.substitutes, s.property = target := by
  obtain ⟨synthesized, source, hsynthesized, hsource, -⟩ :=
    mem_substitutes (exists_substitutes_of_mem_emitted hcustom hother hmem) hmem
  obtain ⟨rules, hentry, rule, hrule, s, hs, htarget, -⟩ := FallbackTable.mem_synthesize hsynthesized hsource
  rw [lower_renamed (FallbackTable.target_cases _ hentry).1] at hentry
  exact ⟨rules, hentry, rule, hrule, s, hs, htarget.symm⟩

/-- A declaration of a property that USS lacks gives a target one value at most. -/
theorem last?_emitted_of_mem {config : Config} {d : Declaration} (hcustom : d.isCustom = false)
    (hother : Policy.bundled.isNative (renamed d.property) = false) {target value : Text}
    (hmem : (target, value) ∈ (bundled config).emitted d) :
    Entries.last? target ((bundled config).emitted d) = some value := by
  have hnodup : (Entries.names ((bundled config).emitted d)).Nodup := by
    obtain ⟨synthesized, hsynthesized, hnames⟩ :=
      names_substitutes (exists_substitutes_of_mem_emitted hcustom hother hmem)
    refine hnames.nodup ?_
    rcases FallbackTable.names_synthesize hsynthesized with rfl | ⟨rules, hentry, rule, hrule, htargets⟩
    · exact List.nodup_nil
    · exact htargets.nodup (FallbackTable.nodup_targets _ hentry rule hrule)
  rw [← Entries.mem_ofList_iff, Entries.ofList_of_nodup hnodup]
  exact hmem

/--
The declarations that can give the target of a substitute another value: those that name it, those of the same property and those of its rival.
-/
def MayReplace (target : Text) (d e : Declaration) : Prop :=
  e.isCustom = false ∧ ((Policy.bundled.isNative (renamed e.property) = true ∧ renamed e.property = target) ∨
    (Policy.bundled.isNative (renamed e.property) = false ∧ (renamed e.property = renamed d.property ∨
      FallbackTable.AreRivals target (renamed d.property) (renamed e.property))))

theorem mayReplace_of_mem_emitted {config : Config} {d e : Declaration} {target value w : Text}
    (hcustom : d.isCustom = false) (hother : Policy.bundled.isNative (renamed d.property) = false)
    (hd : (target, value) ∈ (bundled config).emitted d) (he : (target, w) ∈ (bundled config).emitted e) :
    MayReplace target d e := by
  obtain ⟨rules, hentry, rule, hrule, s, hs, rfl⟩ := exists_target_of_mem_emitted hcustom hother hd
  obtain ⟨hplain, hfont⟩ := (FallbackTable.target_cases _ hentry).2 rule hrule s hs
  rcases mem_emitted he with ⟨hcustom', hname, -⟩ | ⟨hcustom', hnative, -, -, hname⟩ | ⟨hcustom', -, hother', -⟩
  · rw [Declaration.isCustom, ← hname, hplain] at hcustom'
    cases hcustom'
  · exact ⟨hcustom', .inl ⟨hnative, (hname.resolve_right fun h => hfont h.2).symm⟩⟩
  · obtain ⟨rules', hentry', rule', hrule', s', hs', htarget⟩ := exists_target_of_mem_emitted hcustom' hother' he
    exact ⟨hcustom', .inr ⟨hother', FallbackTable.eq_or_areRivals _ hentry rule hrule s hs _ hentry' rule' hrule' s' hs'
      htarget.symm⟩⟩

/--
The target of a substitute has the last value that it is given from there on. It is that of the substitute unless a later declaration gives it another one, and only a declaration of the target, of the same property or of its rival can do so.
-/
theorem substitute_written (config : Config) {r : Rule} {header : List Text} {pairs : Entries Text}
    (hkeeps : (bundled config).Keeps r header pairs) {target value : Text} {before after : List Declaration}
    {d : Declaration} (hsplit : r.declarations = before ++ d :: after) (hcustom : d.isCustom = false)
    (hother : Policy.bundled.isNative (renamed d.property) = false) (hmem : (target, value) ∈ (bundled config).emitted d) :
    pairs.get? target = some ((Entries.last? target (after.flatMap (bundled config).emitted)).getD value) ∧
      ((target, value) ∈ pairs ∨
        ∃ e ∈ after, MayReplace target d e ∧ ∃ w, (target, w) ∈ (bundled config).emitted e ∧ w ≠ value) := by
  obtain ⟨-, -, rfl, -⟩ := keeps_iff.mp hkeeps
  have hlast : Entries.last? target (r.declarations.flatMap (bundled config).emitted) =
      some ((Entries.last? target (after.flatMap (bundled config).emitted)).getD value) := by
    rw [hsplit, List.flatMap_append, List.flatMap_cons, Entries.last?_append, Entries.last?_append,
      last?_emitted_of_mem hcustom hother hmem]
    cases Entries.last? target (after.flatMap (bundled config).emitted) <;> rfl
  refine ⟨by rw [Entries.get?_ofList, hlast], ?_⟩
  rw [Entries.mem_ofList_iff, hlast]
  cases hafter : Entries.last? target (after.flatMap (bundled config).emitted) with
  | none => exact .inl rfl
  | some w =>
    obtain ⟨e, he, hw⟩ := List.mem_flatMap.mp (Entries.mem_of_last? hafter)
    by_cases hne : w = value
    · exact .inl (hne ▸ rfl)
    · exact .inr ⟨e, he, mayReplace_of_mem_emitted hcustom hother hmem hw, w, hw, hne⟩

/-! ### A bold and italic text -/

def bold : Declaration := ⟨"font-weight", Fragment.ofText? "bold", false⟩

def italic : Declaration := ⟨"font-style", Fragment.ofText? "italic", false⟩

/-- The rule `.a { font-weight: bold; font-style: italic; }`. -/
def boldItalic : Rule := ⟨[Selector.ofText ".a"], [bold, italic]⟩

theorem keeps_boldItalic : (bundled .empty).Keeps boldItalic [".a".toList] [("-unity-font-style", "italic")] :=
  keeps_of_verdict (by rw [bundled, Policy.bundled_eq]; decide +kernel)

theorem declarations_boldItalic : boldItalic.declarations = [] ++ bold :: [italic] := rfl

theorem emitted_boldItalic : ("-unity-font-style".toList, "bold".toList) ∈ (bundled .empty).emitted bold ∧
    ("-unity-font-style".toList, "italic".toList) ∈ (bundled .empty).emitted italic := by
  rw [bundled, Policy.bundled_eq]
  decide +kernel

theorem isNative_boldItalic : Policy.bundled.isNative (renamed bold.property) = false ∧
    Policy.bundled.isNative (renamed italic.property) = false := by
  simp only [Policy.isNative_bundled]
  decide

/-- The weight gives way to the style. -/
theorem substitute_written_boldItalic :
    (bundled .empty).Keeps boldItalic [".a".toList] [("-unity-font-style", "italic")] ∧
      boldItalic.declarations = [] ++ bold :: [italic] ∧ bold.isCustom = false ∧
      Policy.bundled.isNative (renamed bold.property) = false ∧
      ("-unity-font-style".toList, "bold".toList) ∈ (bundled .empty).emitted bold ∧
      Entries.get? "-unity-font-style" ([("-unity-font-style", "italic")] : Entries Text) =
        some ((Entries.last? "-unity-font-style" ([italic].flatMap (bundled .empty).emitted)).getD "bold") :=
  ⟨keeps_boldItalic, declarations_boldItalic, rfl, isNative_boldItalic.1, emitted_boldItalic.1,
    (substitute_written .empty keeps_boldItalic declarations_boldItalic rfl isNative_boldItalic.1 emitted_boldItalic.1).1⟩

/-- The substitutes of different properties are not all written, even where their targets are not declared. -/
theorem substitute_overwritten :
    ¬∀ (config : Config) (r : Rule) (header : List Text) (pairs : Entries Text) (d e : Declaration) (target value : Text),
      (bundled config).Keeps r header pairs → d ∈ r.declarations → e ∈ r.declarations → d.isCustom = false →
      e.isCustom = false → Policy.bundled.isNative (renamed d.property) = false →
      Policy.bundled.isNative (renamed e.property) = false → renamed d.property ≠ renamed e.property →
      (∀ f ∈ r.declarations, f.isCustom = false → renamed f.property ≠ target) →
      (target, value) ∈ (bundled config).emitted d ∨ (target, value) ∈ (bundled config).emitted e →
      (target, value) ∈ pairs := by
  intro hall
  have hbold := hall .empty boldItalic _ _ bold italic "-unity-font-style" "bold" keeps_boldItalic (by simp [boldItalic])
    (by simp [boldItalic]) rfl rfl isNative_boldItalic.1 isNative_boldItalic.2 (by decide) (by decide)
    (.inl emitted_boldItalic.1)
  revert hbold
  decide

end Converter

end UiToolkit
