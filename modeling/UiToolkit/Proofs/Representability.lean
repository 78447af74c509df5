import UiToolkit.Proofs.Fates
import UiToolkit.StyleSheet.Source

/-!
# What a line may hold

Whatever the tables say, a line is either the author's own, or of a native property, or of a property that stands in for itself. One line is apart: the second name of a font goes with the first one without being looked up in the policy.
-/

namespace UiToolkit

open Attempt Text

/-- The table may give the property a declaration of the target. -/
def FallbackTable.HasTarget (table : FallbackTable) (property target : Text) : Prop :=
  ∃ rules, (lower property, rules) ∈ table ∧ ∃ rule ∈ rules, ∃ s ∈ rule.substitutes, s.property = target

namespace Converter

/-- A line that USS can represent as far as the policy tells. -/
inductive IsRepresentable (c : Converter) (r : Rule) : Text × Text → Prop
  /-- A declaration of the author's own property, as it stands. -/
  | custom {d : Declaration} (hd : d ∈ r.declarations) (hcustom : d.isCustom = true) :
      IsRepresentable c r (d.property, d.text)
  | native {name value : Text} (hnative : c.policy.isNative name = true) (hvisible : isBlankText value = false) :
      IsRepresentable c r (name, value)
  /-- A known property for which the table has a declaration of the same name. -/
  | identity {d : Declaration} {name value : Text} (hd : d ∈ r.declarations) (hcustom : d.isCustom = false)
      (hknown : c.policy.isKnown (renamed d.property) = true) (hother : c.policy.isNative (renamed d.property) = false)
      (htarget : c.fallbacks.HasTarget (renamed d.property) name) (hname : lower name = renamed d.property)
      (hvisible : isBlankText value = false) : IsRepresentable c r (name, value)

/-- The second name of a font, with what a declaration of the native first name comes to. -/
def IsFontDefinition (c : Converter) (r : Rule) (line : Text × Text) : Prop :=
  line.1 = "-unity-font-definition".toList ∧ isBlankText line.2 = false ∧
    c.policy.isNative "-unity-font" = true ∧
      ∃ d ∈ r.declarations, d.isCustom = false ∧ renamed d.property = "-unity-font".toList ∧
        c.translate "-unity-font" d.text = .ok line.2

theorem representable_of_mem_emitted {c : Converter} {r : Rule} {d : Declaration} (hd : d ∈ r.declarations)
    {line : Text × Text} (hmem : line ∈ c.emitted d) : c.IsRepresentable r line ∨ c.IsFontDefinition r line := by
  obtain ⟨name, value⟩ := line
  rcases mem_emitted hmem with ⟨hcustom, hname, hvalue⟩ | ⟨hcustom, hnative, htranslate, hvisible, hname⟩ |
      ⟨hcustom, hknown, hother, pairs, hpairs, hpair⟩
  · left
    rw [hname, hvalue]
    exact .custom hd hcustom
  · rcases hname with rfl | ⟨hfont, hdefinition⟩
    · exact .inl (.native hnative hvisible)
    · rw [hfont] at hnative htranslate
      exact .inr ⟨hdefinition, hvisible, hnative, d, hd, hcustom, hfont, htranslate⟩
  · obtain ⟨synthesized, source, hsynthesized, hsource, hadmits, -, hvisible⟩ := mem_substitutes hpairs hpair
    obtain ⟨rules, hrules, rule, hrule, s, hs, hname, -⟩ := FallbackTable.mem_synthesize hsynthesized hsource
    left
    rcases Bool.or_eq_true_iff.mp hadmits with hself | hnative
    · exact .identity hd hcustom hknown hother ⟨rules, hrules, rule, hrule, s, hs, hname.symm⟩ (beq_iff_eq.mp hself) hvisible
    · exact .native hnative hvisible

/-- Every line of a block is representable or the second name of a font. -/
theorem lines_representable {c : Converter} {rules : List Rule} {conv : Conversion} (h : c.convertRules rules = .ok conv) :
    conv.text = (rules.filter c.keeps).flatMap (fun r => Outcome.block (c.accepted r) (c.lines r)) ∧
      ∀ r ∈ rules, c.keeps r = true → ∀ line ∈ c.lines r, c.IsRepresentable r line ∨ c.IsFontDefinition r line := by
  refine ⟨(conversion_spec h).1, fun r _ _ line hline => ?_⟩
  obtain ⟨d, hd, hmem⟩ := List.mem_flatMap.mp (Entries.mem_of_mem_ofList hline)
  exact representable_of_mem_emitted hd hmem

/-! ### A font under a policy without its second name -/

def robotoRules : List Rule := Rule.ofSources [⟨".a", [("font-family", "Roboto")]⟩]

def robotoText : Text :=
  ".a \x7b\n    -unity-font: Assets/Roboto.ttf;\n    -unity-font-definition: Assets/Roboto.ttf;\n\x7d\n"

theorem convertRules_robotoRules : sample.convertRules robotoRules = .ok ⟨robotoText, [], [], []⟩ := by
  decide +kernel

theorem lines_representable_robotoRules :
    sample.convertRules robotoRules = .ok ⟨robotoText, [], [], []⟩ ∧
      ∀ r ∈ robotoRules, sample.keeps r = true → ∀ line ∈ sample.lines r,
        sample.IsRepresentable r line ∨ sample.IsFontDefinition r line :=
  ⟨convertRules_robotoRules, (lines_representable convertRules_robotoRules).2⟩

/-- The second name of the font is written although the policy does not know it. -/
theorem font_definition_not_representable :
    ¬∀ (c : Converter) (rules : List Rule) (conv : Conversion), c.convertRules rules = .ok conv →
      ∀ r ∈ rules, c.keeps r = true → ∀ line ∈ c.lines r, c.IsRepresentable r line := by
  intro hall
  obtain ⟨r, hr, hkeeps, hline⟩ : ∃ r ∈ robotoRules, sample.keeps r = true ∧
      ("-unity-font-definition".toList, "Assets/Roboto.ttf".toList) ∈ sample.lines r := by
    decide +kernel
  have hproperties : ∀ r ∈ robotoRules, ∀ d ∈ r.declarations, renamed d.property = "-unity-font".toList := by
    decide +kernel
  have hrepresentable := hall sample _ _ convertRules_robotoRules r hr hkeeps _ hline
  generalize hpair : ("-unity-font-definition".toList, "Assets/Roboto.ttf".toList) = pair at hrepresentable
  cases hrepresentable with
  | custom hd hcustom =>
    obtain ⟨hname, -⟩ := Prod.mk.inj hpair
    rw [Declaration.isCustom, ← hname] at hcustom
    exact absurd hcustom (by decide)
  | native hnative =>
    obtain ⟨rfl, -⟩ := Prod.mk.inj hpair
    exact absurd hnative (by decide)
  | identity hd _ _ hother =>
    rw [hproperties r hr _ hd] at hother
    exact absurd hother (by decide)

end Converter

end UiToolkit
