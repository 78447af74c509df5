import UiToolkit.Proofs.Emission
import UiToolkit.Proofs.Retranslation

/-!
# Converting a line again

A line that was written comes to itself when it is taken for a declaration. Only a font comes to more: its path is looked up among the assets, and written under both of its names each time.
-/

namespace UiToolkit

open Attempt Piece Text

/-! ### Names -/

/-- A native property under the name that it is written with. -/
def Policy.IsNativeName (name : Text) : Prop := lower name = name ∧ bundled.isNative name = true

theorem Policy.isNativeName_fonts : IsNativeName "-unity-font" ∧ IsNativeName "-unity-font-definition" := by
  simp only [IsNativeName, isNative_bundled]
  decide

theorem Converter.lower_renamed {property : Text} (hascii : ∀ c ∈ lower (renamed property), c.toNat < 128) :
    lower (renamed property) = renamed property := by
  unfold renamed at hascii ⊢
  dsimp only at hascii ⊢
  split
  · decide
  · split
    · decide
    · rename_i hbackground hfamily
      rw [if_neg hbackground, if_neg hfamily] at hascii
      exact lower_lower hascii

theorem Converter.renamed_eq_of_lower {property name : Text} (hascii : ∀ c ∈ name, c.toNat < 128)
    (h : lower (renamed property) = name) : renamed property = name :=
  (lower_renamed (h.symm ▸ hascii)).symm.trans h

theorem Policy.isNativeName_renamed {property : Text} (h : bundled.isNative (Converter.renamed property) = true) :
    IsNativeName (Converter.renamed property) := by
  have hnames : ∀ name ∈ PropertyTable.bundled.names, ∀ c ∈ name, c.toNat < 128 := by decide +kernel
  exact ⟨Converter.lower_renamed (hnames _ (properties_bundled ▸ mem_names_of_isNative h)), h⟩

theorem Policy.IsNativeName.renamed {name : Text} (h : IsNativeName name) : Converter.renamed name = name := by
  obtain ⟨hlower, hnative⟩ := h
  rw [isNative_bundled] at hnative
  have hbackground : (name == "background".toList) = false := by
    refine beq_false_of_ne ?_
    rintro rfl
    exact absurd hnative (by decide)
  have hfamily : (name == "font-family".toList) = false := by
    refine beq_false_of_ne ?_
    rintro rfl
    exact absurd hnative (by decide)
  simp only [Converter.renamed, hlower, hbackground, hfamily, Bool.false_eq_true, if_false]

/-- The filling that takes the place of every value with `none`. -/
def Filling.isNone : Filling → Bool
  | .template text => text == "none".toList
  | _ => false

theorem Filling.fill?_of_isNone {f : Filling} (h : f.isNone = true) (value : Text) : f.fill? value = .ok (some "none".toList) := by
  cases f with
  | template text =>
    rw [beq_iff_eq.mp h, fill?, replaceAll_of_not_mem (by decide)]
  | _ => cases h

/-- The targets of the bundled table are native, but for the property that hides an element. -/
theorem FallbackTable.isNativeName_target : ∀ entry ∈ bundled, ∀ rule ∈ entry.2, ∀ s ∈ rule.substitutes,
    (lower s.property = s.property ∧ Policy.bundled.isNative s.property = true ∧
        s.property ≠ "-unity-font".toList) ∨
      (s.property = "display".toList ∧ s.filling.isNone = true) := by
  simp only [Policy.isNative_bundled]
  decide

/-! ### Fonts -/

/-- The path is its own first layer in normal form, and is looked up among the assets as itself. -/
def Config.KeepsPath (config : Config) (path : Text) : Prop :=
  trim (firstTopLevel ',' (Value.normalize path)) = path ∧ config.fontPath path = path

instance (config : Config) (path : Text) : Decidable (config.KeepsPath path) := inferInstanceAs (Decidable (_ ∧ _))

theorem Value.translate_font_again {config : Config} {path : Text} (hkept : config.KeepsPath path)
    (hvisible : isBlankText path = false) :
    translate (some config) "-unity-font" path = .ok path ∧
      translate (some config) "-unity-font-definition" path = .ok path := by
  obtain ⟨hlayer, hfont⟩ := hkept
  rw [translate_font hvisible (by decide), translate_definition hvisible (by decide), hlayer]
  exact ⟨congrArg Except.ok hfont, rfl⟩

/-! ### Lines -/

namespace Converter

variable {config : Config}

/-- What may stand in a line: what the author wrote, a font, the translation of another native property, or that an element is hidden. -/
inductive IsLine (config : Config) : Text → Text → Prop
  | custom {name : Text} (value : Text) (h : "--".toList.isPrefixOf name = true) : IsLine config name value
  | font {name path : Text} (hname : name = "-unity-font".toList ∨ name = "-unity-font-definition".toList)
      (hkept : config.KeepsPath path) (hvisible : isBlankText path = false) : IsLine config name path
  | native {name source value : Text} (hname : Policy.IsNativeName name) (hfont : name ≠ "-unity-font".toList)
      (h : Value.translate (some config) name source = .ok value) (hvisible : isBlankText value = false) :
      IsLine config name value
  | hidden : IsLine config "display" "none"

theorem translate_hidden (config : Option Config) : Value.translate config "display" "none" = .ok "none".toList := by
  rw [Value.translate_eq (by decide) (by decide) (by decide)]
  decide +kernel

/-- A declaration writes a font under both names, or it writes lines that no second conversion looks up. -/
theorem font_or_isLine_of_mem_emitted {d : Declaration} {name value : Text}
    (hmem : (name, value) ∈ (bundled config).emitted d) :
    (∃ path, isBlankText path = false ∧
        (bundled config).emitted d = [("-unity-font".toList, path), ("-unity-font-definition".toList, path)]) ∨
      (name ≠ "-unity-font".toList ∧ IsLine config name value) := by
  rcases mem_emitted hmem with ⟨hcustom, rfl, rfl⟩ | ⟨hcustom, hnative, htranslate, hvisible, hname⟩ |
      ⟨-, -, -, pairs, hpairs, hpair⟩
  · refine .inr ⟨fun hfont => ?_, .custom _ hcustom⟩
    rw [Declaration.isCustom, hfont] at hcustom
    cases hcustom
  · by_cases hfont : renamed d.property = "-unity-font".toList
    · have hhandle : (bundled config).handle d = .ok (.emitted (nativePairs (renamed d.property) value)) :=
        (handle_native _ hcustom hnative).trans (congrArg (Functor.map _) htranslate)
      refine .inl ⟨value, hvisible, ?_⟩
      rw [emitted_of_handle hhandle, Handling.pairs, nativePairs, hvisible, if_neg Bool.false_ne_true, hfont]
      rfl
    · rcases hname with rfl | ⟨hfont', -⟩
      · exact .inr ⟨hfont, .native (Policy.isNativeName_renamed hnative) hfont htranslate hvisible⟩
      · exact absurd hfont' hfont
  · obtain ⟨synthesized, source, hsynthesized, hsource, -, htranslate, hvisible⟩ := mem_substitutes hpairs hpair
    obtain ⟨rules, hentry, rule, hrule, s, hs, rfl, filled, hfilled, rfl⟩ :=
      FallbackTable.mem_synthesize hsynthesized hsource
    rcases FallbackTable.isNativeName_target _ hentry rule hrule s hs with ⟨hlower, hnative, hfont⟩ | ⟨hname, hnone⟩
    · exact .inr ⟨hfont, .native ⟨hlower, hnative⟩ hfont htranslate hvisible⟩
    · rw [Filling.fill?_of_isNone hnone] at hfilled
      cases hfilled
      rw [hname] at htranslate ⊢
      cases htranslate.symm.trans (translate_hidden (some config))
      exact .inr ⟨by decide, .hidden⟩

/-- The declaration that a line is read as. -/
def declarationOf (line : Text × Text) : Declaration := ⟨line.1, Fragment.ofText? line.2, false⟩

/-- What a line comes to when it is converted again. -/
def relines (line : Text × Text) : List (Text × Text) :=
  if line.1 = "-unity-font".toList then [line, ("-unity-font-definition", line.2)] else [line]

theorem text_declarationOf {name value : Text} (h : trim value = value) : (declarationOf (name, value)).text = value := by
  rw [Declaration.text, declarationOf]
  cases hfragment : Fragment.ofText? value with
  | some f =>
    rw [Option.map_some, Option.getD_some, Fragment.raw_of_ofText? hfragment, h]
  | none =>
    have hempty : value.isEmpty = true := by
      rw [Fragment.ofText?, Option.map_eq_none_iff, Value.classify?] at hfragment
      simpa [h] using hfragment
    rw [List.isEmpty_iff.mp hempty]
    rfl

theorem handle_hidden (config : Config) :
    (bundled config).handle (declarationOf ("display", "none")) = .ok (.emitted [("display".toList, "none".toList)]) := by
  have hsynthesized : FallbackTable.bundled.synthesize "display" "none" = .ok [("display".toList, "none".toList)] := by
    decide +kernel
  have hadmits : (bundled config).admits "display" "display" = true :=
    Bool.or_eq_true_iff.mpr (.inl (by decide))
  have htranslate : (bundled config).translate "display" "none" = .ok "none".toList := translate_hidden (some config)
  have hsubstitutes : (bundled config).substitutes "display" "none" = .ok [("display".toList, "none".toList)] := by
    refine bind_eq_ok.mpr ⟨_, hsynthesized, bind_eq_ok.mpr ⟨[("display".toList, "none".toList)], ?_, rfl⟩⟩
    simp only [List.filter_cons, hadmits, if_true, List.filter_nil, List.mapM_cons, htranslate]
    rfl
  have hname : renamed (declarationOf ("display", "none")).property = "display".toList := by decide
  have hknown : Policy.bundled.isKnown "display" = true := by
    rw [Policy.isKnown_bundled]
    decide
  have hnative : Policy.bundled.isNative "display" = false := by
    rw [Policy.isNative_bundled]
    decide
  rw [handle_other _ (by decide) (by rw [hname]; exact hknown) (by rw [hname]; exact hnative), hname,
    text_declarationOf (by decide), hsubstitutes]
  rfl

theorem handle_line {name value : Text} (hline : IsLine config name value)
    (htrim : trim value = value) (hspans : Value.takesPart name = true → ClosesSpans value)
    (hspacing : name = "letter-spacing".toList → ∀ n : Int, n ≠ 0 → value ≠ Text.ofInt n ++ "px".toList) :
    (bundled config).handle (declarationOf (name, value)) = .ok (.emitted (relines (name, value))) := by
  have hnativeLine : ∀ name, Policy.IsNativeName name → Value.translate (some config) name value = .ok value →
      isBlankText value = false →
      (bundled config).handle (declarationOf (name, value)) = .ok (.emitted (relines (name, value))) := by
    intro name hname htranslate hvisible
    have hrenamed : renamed (declarationOf (name, value)).property = name := hname.renamed
    have hpairs : nativePairs name value = relines (name, value) := by
      rw [nativePairs, hvisible, if_neg Bool.false_ne_true, relines]
      split
      · rename_i hfont
        rw [if_pos (beq_iff_eq.mp hfont)]
      · rename_i hfont
        rw [if_neg (by simpa using hfont)]
    have htranslate' : (bundled config).translate name value = .ok value := htranslate
    rw [handle_native _ (Policy.isPrefixOf_hyphens_of_isNative hname.2) (by rw [hrenamed]; exact hname.2), hrenamed,
      text_declarationOf htrim, htranslate', ← hpairs]
    rfl
  cases hline with
  | custom value hcustom =>
    have hfont : name ≠ "-unity-font".toList := by
      rintro rfl
      cases hcustom
    rw [handle_custom _ (d := declarationOf (name, value)) hcustom, text_declarationOf htrim, relines, if_neg hfont]
    rfl
  | font hname hkept hvisible =>
    obtain ⟨hfont, hdefinition⟩ := Value.translate_font_again hkept hvisible
    rcases hname with rfl | rfl
    · exact hnativeLine _ Policy.isNativeName_fonts.1 hfont hvisible
    · exact hnativeLine _ Policy.isNativeName_fonts.2 hdefinition hvisible
  | native hname hfont h hvisible =>
    refine hnativeLine _ hname (Value.translate_translate h hvisible htrim ?_ hspans ?_) hvisible
    · rwa [hname.1]
    · rwa [hname.1]
  | hidden =>
    rw [handle_hidden, relines, if_neg (by decide)]

end Converter

end UiToolkit
