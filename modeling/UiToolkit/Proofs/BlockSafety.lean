import UiToolkit.Proofs.Blocks
import UiToolkit.Proofs.Pieces
import UiToolkit.StyleSheet.Basic

/-!
# What can break out of a block

The values of a style sheet are checked for braces and semicolons outside quotes when they are read, and rewriting a value does not change the outcome of the check. Headers and the names of custom properties are never checked, and a value of which only a part is taken may lose the end of a quoted string. Everything else that is written is safe.
-/

namespace UiToolkit

open Attempt Declaration Text

/-! ### What is read is safe -/

theorem Declaration.breaksOut_text_of_ofSource? {property value : Text} {d : Declaration}
    (h : ofSource? property value = some d) : breaksOut d.text = false := by
  unfold ofSource? at h
  simp only at h
  split at h
  · cases h
  · rename_i hsafe
    obtain ⟨f, hf, rfl⟩ := Option.map_eq_some_iff.mp h
    simp only [Bool.or_eq_true, not_or, Bool.not_eq_true] at hsafe
    rw [Declaration.text, Option.map_some, Option.getD_some, Fragment.raw_of_ofText? hf, breaksOut_trim]
    exact hsafe.2

theorem Rule.breaksOut_text_of_mem_ofSources {sources : List RuleSource} {r : Rule} (hr : r ∈ Rule.ofSources sources)
    {d : Declaration} (hd : d ∈ r.declarations) : breaksOut d.text = false := by
  obtain ⟨s, -, hs⟩ := List.mem_filterMap.mp hr
  unfold RuleSource.rule? at hs
  simp only at hs
  split at hs
  · cases hs
  · cases hs
    obtain ⟨⟨property, value⟩, -, hsource⟩ := List.mem_filterMap.mp hd
    exact breaksOut_text_of_ofSource? hsource

/-! ### Names -/

theorem Text.isStructural_lower {s : Text} (h : ∀ c ∈ lower s, isStructural c = false) : ∀ c ∈ s, isStructural c = false := by
  intro c hc
  by_contra hstructural
  have hmem : c ∈ lower s := by
    simp only [isStructural, Bool.not_eq_false, Bool.or_eq_true, beq_iff_eq] at hstructural
    rcases hstructural with (rfl | rfl) | rfl <;>
      exact mem_lowerAfter (by decide) (by decide) hc
  exact hstructural (h c hmem)

theorem Policy.isStructural_of_isNative {property : Text} (h : Policy.bundled.isNative property = true) :
    ∀ c ∈ property, isStructural c = false := by
  have hnames : ∀ name ∈ PropertyTable.bundled.names, ∀ c ∈ name, isStructural c = false := by decide +kernel
  exact isStructural_lower (hnames _ (properties_bundled ▸ mem_names_of_isNative h))

/-! ### Values -/

namespace Value

/-- The sides that a list of values for all of them is taken apart for. -/
def sides : List Text := ["top", "right", "bottom", "left"]

/-- Properties that may be given a part of a value. -/
def isCut (property : Text) : Bool :=
  singleValued.contains (lower property) || isCornerRadius (lower property) || sides.contains (lower property)

theorem breaksOut_doublePixels {value text : Text} (h : doublePixels value = .ok text) (hvalue : breaksOut value = false) :
    breaksOut text = false := by
  unfold doublePixels at h
  split at h
  · split at h
    · obtain ⟨i, -, heq⟩ := bind_eq_ok.mp h
      rw [← return_eq_ok.mp heq]
      exact breaksOut_of_ordinary fun c hc => isOrdinary_of_isInert (Pixels.isInert_ofPixels hc)
    · cases h
      exact hvalue
  · cases h
    exact hvalue

theorem breaksOut_translate {config : Option Config} {property value text : Text}
    (h : translate config property value = .ok text) (hcut : isCut property = false) (hvalue : breaksOut value = false) :
    breaksOut text = false := by
  simp only [isCut, Bool.or_eq_false_iff] at hcut
  obtain ⟨⟨hsingle, hcorner⟩, -⟩ := hcut
  have hfont : ¬(lower property == "-unity-font".toList) = true := by
    intro heq
    rw [beq_iff_eq.mp heq] at hsingle
    exact absurd hsingle (by decide)
  have hdefinition : ¬(lower property == "-unity-font-definition".toList) = true := by
    intro heq
    rw [beq_iff_eq.mp heq] at hsingle
    exact absurd hsingle (by decide)
  unfold translate at h
  split at h
  · cases h
    exact hvalue
  · simp only [hsingle, hcorner, if_neg hfont, if_neg hdefinition, Bool.false_eq_true, if_false] at h
    split at h
    · cases h
      exact breaksOut_of_ordinary (by decide)
    · obtain ⟨px, hpx, h⟩ := bind_eq_ok.mp h
      have hsafe : breaksOut px = false := by
        rw [← (Pixels.recast_convertEms hpx).breaksOut, breaksOut_normalize, hvalue]
      split at h
      · exact breaksOut_doublePixels h hsafe
      · cases h
        exact hsafe

end Value

/-! ### Substitutes -/

namespace Filling

/-- The filling is the value itself, or text of ordinary characters without reference to the value. -/
def isPlain : Filling → Bool
  | .template text => text == "$value".toList || text.all fun c => isOrdinary c && c != '$'
  | .keywords table => table.all fun (_, text) => text.all isOrdinary
  | .transformation _ => false
  | .nothing => true

theorem replaceAll_self (value : Text) : replaceAll "$value" value "$value" = value := by
  have hletters : "$value".toList = ['$', 'v', 'a', 'l', 'u', 'e'] := rfl
  simp [hletters, replaceAll]

theorem breaksOut_fill? {f : Filling} {value text : Text} (hplain : f.isPlain = true)
    (hfill : f.fill? value = .ok (some text)) (hvalue : breaksOut value = false) : breaksOut text = false := by
  cases f with
  | template template =>
    cases hfill
    rcases Bool.or_eq_true_iff.mp hplain with hwhole | hconstant
    · rw [beq_iff_eq.mp hwhole]
      rw [replaceAll_self, hvalue]
    · simp only [List.all_eq_true, Bool.and_eq_true, bne_iff_ne, ne_eq] at hconstant
      rw [replaceAll_of_not_mem fun hmem => (hconstant _ hmem).2 rfl]
      exact breaksOut_of_ordinary fun c hc => (hconstant c hc).1
  | keywords table =>
    have hlookup := Except.ok.inj hfill
    obtain ⟨before, after, hsplit, -⟩ := List.lookup_eq_some_iff.mp hlookup
    have hentry := List.all_eq_true.mp hplain (lower (trim value), text) (by simp [hsplit])
    exact breaksOut_of_ordinary (List.all_eq_true.mp hentry)
  | transformation t => cases hplain
  | nothing => cases hfill

end Filling

namespace FallbackTable

theorem bundled_isPlain : ∀ entry ∈ bundled, ∀ rule ∈ entry.2, ∀ s ∈ rule.substitutes,
    (Value.isCut s.property = true ∨ s.filling.isPlain = true) ∧ ∀ c ∈ s.property, isStructural c = false := by
  decide

end FallbackTable

/-! ### Lines and blocks -/

namespace Converter

/-- Names that are not the author's own are safe, and so are the values that are taken whole. -/
theorem safe_of_mem_emitted {config : Config} {d : Declaration} (hd : breaksOut d.text = false) {name value : Text}
    (hmem : (name, value) ∈ (bundled config).emitted d) :
    (d.isCustom = true ∧ name = d.property ∨ breaksOut name = false) ∧
      (Value.isCut name = true ∨ breaksOut value = false) := by
  rcases mem_emitted hmem with ⟨hcustom, rfl, rfl⟩ | ⟨-, hnative, htranslate, -, hname⟩ |
      ⟨-, -, -, pairs, hpairs, hpair⟩
  · exact ⟨.inl ⟨hcustom, rfl⟩, .inr hd⟩
  · rcases hname with rfl | ⟨-, rfl⟩
    · refine ⟨.inr (breaksOut_of_not_isStructural (Policy.isStructural_of_isNative hnative)), ?_⟩
      cases hcut : Value.isCut (renamed d.property) with
      | true => exact .inl rfl
      | false => exact .inr (Value.breaksOut_translate htranslate hcut hd)
    · exact ⟨.inr (breaksOut_of_not_isStructural (by decide)), .inl (by decide)⟩
  · obtain ⟨synthesized, source, hsynthesized, hsource, -, htranslate, -⟩ := mem_substitutes hpairs hpair
    obtain ⟨rules, hentry, rule, hrule, s, hs, rfl, filled, hfilled, rfl⟩ :=
      FallbackTable.mem_synthesize hsynthesized hsource
    obtain ⟨hplain, hstructural⟩ := FallbackTable.bundled_isPlain _ hentry rule hrule s hs
    refine ⟨.inr (breaksOut_of_not_isStructural hstructural), ?_⟩
    cases hcut : Value.isCut s.property with
    | true => exact .inl rfl
    | false =>
      refine .inr (Value.breaksOut_translate htranslate hcut ?_)
      cases filled with
      | none => exact breaksOut_of_ordinary (by decide)
      | some text =>
        rw [Option.getD_some, breaksOut_trim]
        exact Filling.breaksOut_fill? (hplain.resolve_left (by simp [hcut])) hfilled hd

end Converter

namespace Block

/-- No header, name or value of the block has a brace or a semicolon outside quotes. -/
def IsSafe (b : Block) : Prop :=
  breaksOut (joinWith ", " b.header) = false ∧ ∀ line ∈ b.lines, breaksOut line.1 = false ∧ breaksOut line.2 = false

/-- The same for what is not checked: the header, the author's own names, and values that may have been cut. -/
def UncheckedIsSafe (b : Block) : Prop :=
  breaksOut (joinWith ", " b.header) = false ∧
    ∀ line ∈ b.lines, ("--".toList.isPrefixOf line.1 = true → breaksOut line.1 = false) ∧
      (Value.isCut line.1 = true → breaksOut line.2 = false)

instance (b : Block) : Decidable b.IsSafe := inferInstanceAs (Decidable (_ ∧ _))

instance (b : Block) : Decidable b.UncheckedIsSafe := inferInstanceAs (Decidable (_ ∧ _))

end Block

namespace Converter

/-- The text is made of blocks with at least one line, and a block is safe just when what is not checked in it is safe. -/
theorem blocks_safe_iff (config : Config) (css : Text) {conv : Conversion}
    (h : (bundled config).convertRules (Rule.ofCss css) = .ok conv) :
    conv.text = ((bundled config).blocks (Rule.ofCss css)).flatMap Block.text ∧
      ∀ b ∈ (bundled config).blocks (Rule.ofCss css), b.lines ≠ [] ∧ (b.IsSafe ↔ b.UncheckedIsSafe) := by
  refine ⟨text_eq_blocks h, fun b hb => ?_⟩
  obtain ⟨r, hr, hkeeps⟩ := mem_blocks.mp hb
  obtain ⟨-, -, hlines, hne⟩ := keeps_iff.mp hkeeps
  refine ⟨hne, ⟨fun hsafe => ⟨hsafe.1, fun line hline => ?_⟩, fun hsafe => ⟨hsafe.1, fun line hline => ?_⟩⟩⟩
  · exact ⟨fun _ => (hsafe.2 line hline).1, fun _ => (hsafe.2 line hline).2⟩
  · obtain ⟨hname, hvalue⟩ := hsafe.2 line hline
    rw [hlines] at hline
    obtain ⟨d, hd, hmem⟩ := List.mem_flatMap.mp (Entries.mem_of_mem_ofList hline)
    obtain ⟨hemittedName, hemittedValue⟩ := safe_of_mem_emitted (Rule.breaksOut_text_of_mem_ofSources hr hd) hmem
    refine ⟨?_, hemittedValue.elim hvalue id⟩
    rcases hemittedName with ⟨hcustom, heq⟩ | hsafeName
    · exact hname (heq ▸ hcustom)
    · exact hsafeName

/-! ### An escaped semicolon in a name -/

/-- The name of the author's own property has a semicolon once it is read. -/
def escapedSemicolon : Text := ".a \x7b --x\\;y: red; width: 1px; \x7d"

def escapedSemicolonText : Text := ".a \x7b\n    --x;y: red;\n    width: 1px;\n\x7d\n"

theorem convertRules_escapedSemicolon :
    (bundled .empty).convertRules (Rule.ofCss escapedSemicolon) = .ok ⟨escapedSemicolonText, [], [], []⟩ := by
  rw [bundled, Policy.bundled_eq]
  decide +kernel

theorem blocks_safe_iff_escapedSemicolon :
    escapedSemicolonText = ((bundled .empty).blocks (Rule.ofCss escapedSemicolon)).flatMap Block.text ∧
      ∀ b ∈ (bundled .empty).blocks (Rule.ofCss escapedSemicolon), b.lines ≠ [] ∧ (b.IsSafe ↔ b.UncheckedIsSafe) :=
  blocks_safe_iff .empty escapedSemicolon convertRules_escapedSemicolon

/-- The semicolon of the name is written as it is and ends the line. -/
theorem not_isSafe_escapedSemicolon :
    ((bundled .empty).convertRules (Rule.ofCss escapedSemicolon)).isOk = true ∧
      ¬∀ b ∈ (bundled .empty).blocks (Rule.ofCss escapedSemicolon), b.IsSafe := by
  refine ⟨by rw [convertRules_escapedSemicolon]; rfl, ?_⟩
  rw [bundled, Policy.bundled_eq]
  decide +kernel

end Converter

end UiToolkit
