import UiToolkit.Proofs.Emission
import UiToolkit.Proofs.Rounding
import UiToolkit.StyleSheet.Basic

/-!
# Lengths with too many digits

A conversion fails when some length of a value that it looks at has too many digits, and for no other reason. Which lengths these are is said here for each of the places where a number is computed: the relative lengths of a translated value, letter spacing in pixels, and the offsets of a shadow, up to the first term that is no length or finds no room.
-/

namespace UiToolkit

open Attempt Text

theorem Decimal.succeeds_round_scale {d : Decimal} {factor : Nat} :
    Succeeds (d.scale factor).round ↔ d.Fits factor :=
  exists_round_scale_iff

/-- What the term of a piece means. -/
def Piece.meaning? {α : Type} : Piece α → Option α
  | .term _ meaning => some meaning
  | _ => none

namespace Pixels

/-- The numerals of the relative lengths in a value. -/
def emNumerals (value : Text) : List Text := (Piece.scan readEm value).filterMap Piece.meaning?

def isEmUnit (unit : Text) : Bool := asciiLower unit == "em".toList || asciiLower unit == "rem".toList

/-- The numeral of a term that is a relative length. -/
def emNumeral? (term : Text) : Option Text :=
  ((Numeral.split? (trim term)).filter fun (_, unit) => isEmUnit unit).map Prod.fst

/-- The term is a number, or a length in pixels or relative ones. -/
def isLength (term : Text) : Bool :=
  (Numeral.split? (trim term)).any fun (_, unit) =>
    isEmUnit unit || asciiLower unit == "px".toList || (asciiLower unit).isEmpty

/-- The relative length has a value in pixels. -/
def Converts (numeral : Text) : Prop := (Decimal.ofNumeral numeral).Fits perEm

theorem ofEm_succeeds_iff {numeral : Text} : Succeeds (ofEm numeral) ↔ Converts numeral := by
  rw [Converts, ← Decimal.succeeds_round_scale, ofEm]
  exact succeeds_map

theorem convertEms_succeeds_iff {value : Text} :
    Succeeds (convertEms value) ↔ ∀ numeral ∈ emNumerals value, Converts numeral := by
  rw [convertEms]
  simp only [emNumerals, List.mem_filterMap, forall_exists_index, and_imp]
  refine (succeeds_map.trans succeeds_mapM).trans ⟨fun h numeral piece hpiece hmeaning => ?_, fun h piece hpiece => ?_⟩
  · cases piece with
    | guarded span => cases hmeaning
    | term source meaning =>
      cases hmeaning
      exact ofEm_succeeds_iff.mp (h _ hpiece)
    | plain c => cases hmeaning
  · cases piece with
    | guarded span => exact succeeds_ok span
    | term source numeral => exact ofEm_succeeds_iff.mpr (h numeral _ hpiece rfl)
    | plain c => exact succeeds_ok [c]

theorem ofTerm?_succeeds_iff {term : Text} :
    Succeeds (ofTerm? term) ↔ ∀ numeral ∈ emNumeral? term, Converts numeral := by
  unfold ofTerm? emNumeral?
  cases hsplit : Numeral.split? (trim term) with
  | none => simp
  | some split =>
    obtain ⟨numeral, unit⟩ := split
    by_cases hem : isEmUnit unit = true
    · have hcondition := hem
      rw [isEmUnit] at hcondition
      simp only [hcondition, if_true, Option.filter_some, hem, Option.map_some, Option.mem_def, Option.some.injEq,
        forall_eq', ← ofEm_succeeds_iff]
      exact succeeds_map
    · have hcondition := hem
      rw [isEmUnit] at hcondition
      simp only [hcondition, if_false, Bool.false_eq_true, Option.filter_some, hem, Option.map_none, Option.mem_def,
        reduceCtorEq, false_implies, implies_true, iff_true]
      split <;> exact succeeds_ok _

theorem isSome_ofTerm? {term : Text} {px : Option Text} (h : ofTerm? term = .ok px) : px.isSome = isLength term := by
  unfold ofTerm? at h
  unfold isLength
  cases hsplit : Numeral.split? (trim term) with
  | none =>
    rw [hsplit] at h
    cases h
    rfl
  | some split =>
    obtain ⟨numeral, unit⟩ := split
    simp only [hsplit] at h
    simp only [Option.any_some, isEmUnit]
    split at h
    · rename_i hem
      obtain ⟨text, -, rfl⟩ := map_apply_eq_ok.mp h
      rw [hem]
      rfl
    · rename_i hem
      rw [Bool.eq_false_of_not_eq_true hem, Bool.false_or]
      split at h
      · rename_i hpx
        cases h
        rw [hpx]
        rfl
      · rename_i hpx
        cases h
        rw [Bool.eq_false_of_not_eq_true hpx]
        rfl

end Pixels

namespace Value

/-- The text whose lengths are converted; none for a blank value, a gradient that is left out, and fonts. -/
def lengthText? (property value : Text) : Option Text :=
  let text := normalize value
  if isBlankText value || (gradientFree.contains (lower property) && hasGradient text)
      || lower property == "-unity-font".toList || lower property == "-unity-font-definition".toList then none
  else
    let text := if singleValued.contains (lower property) then trim (firstTopLevel ',' text) else text
    some (if isCornerRadius (lower property) then firstWord text else text)

/-- The numeral of a value that is a length in pixels. -/
def pixelNumeral? (value : Text) : Option Text :=
  ((Numeral.split? (trim value)).filter fun (_, unit) => asciiLower unit == "px".toList).map Prod.fst

/-- Some length that is computed for the value of the property has too many digits. -/
def Overflows (property value : Text) : Prop :=
  ∃ text, lengthText? property value = some text ∧
    ((∃ numeral ∈ Pixels.emNumerals text, ¬Pixels.Converts numeral) ∨
      (lower property = "letter-spacing".toList ∧
        ∃ px, Pixels.convertEms text = .ok px ∧ ∃ numeral ∈ pixelNumeral? px, ¬(Decimal.ofNumeral numeral).Fits 2))

theorem doublePixels_succeeds_iff {value : Text} :
    Succeeds (doublePixels value) ↔ ∀ numeral ∈ pixelNumeral? value, (Decimal.ofNumeral numeral).Fits 2 := by
  unfold doublePixels pixelNumeral?
  cases hsplit : Numeral.split? (trim value) with
  | none => simp
  | some split =>
    obtain ⟨numeral, unit⟩ := split
    by_cases hpx : asciiLower unit = "px".toList
    · simp only [hpx, beq_self_eq_true, if_true, Option.filter_some, Option.map_some, Option.mem_def, Option.some.injEq,
        forall_eq', ← Decimal.succeeds_round_scale]
      exact succeeds_map
    · simp only [beq_false_of_ne hpx, Bool.false_eq_true, if_false, Option.filter_some, Option.map_none, Option.mem_def,
        reduceCtorEq, false_implies, implies_true, succeeds_ok]

theorem translate_eq_ok {config : Option Config} {property value : Text} (h : lengthText? property value = none) :
    Succeeds (translate config property value) := by
  unfold lengthText? at h
  unfold translate
  split
  · exact succeeds_ok _
  · rename_i hblank
    simp only [Bool.eq_false_of_not_eq_true hblank, Bool.false_or] at h ⊢
    split
    · exact succeeds_ok _
    · rename_i hgradient
      simp only [Bool.eq_false_of_not_eq_true hgradient, Bool.false_or] at h
      split
      · exact succeeds_ok _
      · rename_i hfont
        simp only [Bool.eq_false_of_not_eq_true hfont, Bool.false_or] at h
        split
        · exact succeeds_ok _
        · rename_i hdefinition
          simp only [Bool.eq_false_of_not_eq_true hdefinition, Bool.false_eq_true, if_false, reduceCtorEq] at h

theorem translate_eq_bind {config : Option Config} {property value text : Text}
    (h : lengthText? property value = some text) :
    translate config property value =
      Pixels.convertEms text >>= fun px => if lower property == "letter-spacing".toList then doublePixels px else .ok px := by
  unfold lengthText? at h
  simp only at h
  split at h
  · cases h
  · rename_i hcondition
    obtain rfl := Option.some.inj h
    simp only [Bool.or_eq_true, not_or, Bool.not_eq_true] at hcondition
    obtain ⟨⟨⟨hblank, hgradient⟩, hfont⟩, hdefinition⟩ := hcondition
    unfold translate
    simp only [hblank, hgradient, hfont, hdefinition, Bool.false_eq_true, if_false]
    rfl

theorem translate_succeeds_iff {config : Option Config} {property value : Text} :
    Succeeds (translate config property value) ↔ ¬Overflows property value := by
  unfold Overflows
  cases htext : lengthText? property value with
  | none => simp [translate_eq_ok htext]
  | some text =>
    rw [translate_eq_bind htext, succeeds_bind]
    simp only [Option.some.injEq, exists_eq_left', not_or, not_exists, not_and, not_not, ← Pixels.convertEms_succeeds_iff]
    constructor
    · rintro ⟨px, hpx, hdouble⟩
      refine ⟨.of_eq_ok hpx, fun hspacing px' hpx' => ?_⟩
      cases hpx.symm.trans hpx'
      rw [if_pos (beq_iff_eq.mpr hspacing)] at hdouble
      exact doublePixels_succeeds_iff.mp hdouble
    · rintro ⟨⟨px, hpx⟩, hdouble⟩
      refine ⟨px, hpx, ?_⟩
      split
      · rename_i hspacing
        exact doublePixels_succeeds_iff.mpr (hdouble (beq_iff_eq.mp hspacing) px hpx)
      · exact succeeds_ok px

end Value

namespace Transformation

/-- The terms that are looked at for a number of offsets. -/
def readTerms : Nat → List Text → List Text
  | _, [] => []
  | 0, term :: _ => [term]
  | room + 1, term :: terms => term :: if Pixels.isLength term then readTerms room terms else []

/-- An offset that is looked at for the first shadow has too many digits. -/
def ShadowOverflows (value : Text) : Prop :=
  ∃ term ∈ readTerms 3 (words (firstTopLevel ',' value)), ∃ numeral ∈ Pixels.emNumeral? term, ¬Pixels.Converts numeral

theorem leadingLengths_succeeds_iff {room : Nat} {terms : List Text} :
    Succeeds (leadingLengths room terms) ↔ ∀ term ∈ readTerms room terms, Succeeds (Pixels.ofTerm? term) := by
  induction terms generalizing room with
  | nil => simp [leadingLengths, readTerms]
  | cons term terms ih =>
    rw [leadingLengths, succeeds_bind]
    cases room with
    | zero =>
      simp only [readTerms, List.forall_mem_singleton]
      refine ⟨fun ⟨px, hpx, _⟩ => .of_eq_ok hpx, fun ⟨px, hpx⟩ => ⟨px, hpx, ?_⟩⟩
      cases px <;> exact succeeds_pure []
    | succ room =>
      rw [readTerms, List.forall_mem_cons]
      constructor
      · rintro ⟨px, hpx, hrest⟩
        refine ⟨.of_eq_ok hpx, ?_⟩
        rw [← Pixels.isSome_ofTerm? hpx]
        cases px with
        | none => exact fun _ hterm => nomatch hterm
        | some px => exact ih.mp (succeeds_map.mp hrest)
      · rintro ⟨⟨px, hpx⟩, hrest⟩
        refine ⟨px, hpx, ?_⟩
        rw [← Pixels.isSome_ofTerm? hpx] at hrest
        cases px with
        | none => exact succeeds_pure []
        | some px => exact succeeds_map.mpr (ih.mpr hrest)

theorem result?_succeeds_iff {t : Transformation} {value : Text} :
    Succeeds (t.result? value) ↔ ¬(t = .shadow ∧ ShadowOverflows value) := by
  cases t with
  | edge side => simp [result?]
  | shadow =>
    rw [result?, shadowText]
    refine succeeds_map.trans (leadingLengths_succeeds_iff.trans ?_)
    simp only [Pixels.ofTerm?_succeeds_iff, ShadowOverflows, true_and, not_exists, not_and, not_not]

end Transformation

namespace FallbackTable

/-- The rule that applies to the value has a substitute taken from a shadow with too long an offset. -/
def Overflows (table : FallbackTable) (property value : Text) : Prop :=
  ∃ rule, (table.rulesFor property).find? (·.guard.holds value) = some rule ∧
    (∃ s ∈ rule.substitutes, s.filling = .transformation .shadow) ∧ Transformation.ShadowOverflows value

theorem fill?_succeeds_iff {f : Filling} {value : Text} :
    Succeeds (f.fill? value) ↔ ¬(f = .transformation .shadow ∧ Transformation.ShadowOverflows value) := by
  cases f with
  | transformation t => simp [Filling.fill?, Transformation.result?_succeeds_iff]
  | template text => simp [Filling.fill?]
  | keywords table => simp [Filling.fill?]
  | nothing => simp [Filling.fill?]

theorem synthesize_succeeds_iff {table : FallbackTable} {property value : Text} :
    Succeeds (table.synthesize property value) ↔ ¬table.Overflows property value := by
  unfold synthesize Overflows
  cases hrule : (table.rulesFor property).find? (·.guard.holds value) with
  | none => simp
  | some rule =>
    refine (succeeds_map.trans succeeds_mapM).trans ?_
    simp only [Option.some.injEq, exists_eq_left', not_and]
    constructor
    · intro hall ⟨s, hs, hshadow⟩ hoverflows
      exact fill?_succeeds_iff.mp (succeeds_map.mp (hall s hs)) ⟨hshadow, hoverflows⟩
    · intro hnone s hs
      exact succeeds_map.mpr (fill?_succeeds_iff.mpr fun h => hnone ⟨s, hs, h.1⟩ h.2)

end FallbackTable

namespace Converter

/-- A length that is computed for the declaration has too many digits: in its own value, in the shadow that a substitute is taken from, or in an admitted substitute. -/
def Overflows (c : Converter) (d : Declaration) : Prop :=
  let property := renamed d.property
  d.isCustom = false ∧ c.policy.isKnown property = true ∧
    if c.policy.isNative property then Value.Overflows property d.text
    else c.fallbacks.Overflows property d.text ∨
      ∃ synthesized, c.fallbacks.synthesize property d.text = .ok synthesized ∧
        ∃ pair ∈ synthesized, c.admits property pair.1 = true ∧ Value.Overflows pair.1 pair.2

theorem substitutes_succeeds_iff {c : Converter} {property value : Text} :
    Succeeds (c.substitutes property value) ↔
      ¬(c.fallbacks.Overflows property value ∨
        ∃ synthesized, c.fallbacks.synthesize property value = .ok synthesized ∧
          ∃ pair ∈ synthesized, c.admits property pair.1 = true ∧ Value.Overflows pair.1 pair.2) := by
  rw [substitutes, succeeds_bind, not_or, ← FallbackTable.synthesize_succeeds_iff]
  have hstep : ∀ synthesized : List (Text × Text),
      Succeeds (do
        let translated ← (synthesized.filter fun (target, _) => c.admits property target).mapM fun (target, text) =>
          return (target, ← c.translate target text)
        return translated.filter fun (_, text) => !isBlankText text) ↔
      ¬∃ pair ∈ synthesized, c.admits property pair.1 = true ∧ Value.Overflows pair.1 pair.2 := by
    intro synthesized
    refine (succeeds_map.trans succeeds_mapM).trans ?_
    simp only [List.mem_filter, not_exists, not_and, and_imp]
    exact forall_congr' fun pair => forall_congr' fun _ => forall_congr' fun _ =>
      succeeds_map.trans Value.translate_succeeds_iff
  simp only [hstep]
  constructor
  · rintro ⟨synthesized, hsynthesized, hnone⟩
    refine ⟨.of_eq_ok hsynthesized, ?_⟩
    rintro ⟨synthesized', hsynthesized', hoverflows⟩
    cases hsynthesized.symm.trans hsynthesized'
    exact hnone hoverflows
  · rintro ⟨⟨synthesized, hsynthesized⟩, hnone⟩
    exact ⟨synthesized, hsynthesized, fun hoverflows => hnone ⟨synthesized, hsynthesized, hoverflows⟩⟩

theorem handle_succeeds_iff {c : Converter} {d : Declaration} : Succeeds (c.handle d) ↔ ¬c.Overflows d := by
  unfold Overflows
  cases hcustom : d.isCustom with
  | true => simp [handle_custom c hcustom]
  | false =>
    cases hknown : c.policy.isKnown (renamed d.property) with
    | false => simp only [handle_unknown c hcustom hknown, succeeds_ok, hknown, Bool.false_eq_true, false_and, and_false,
        not_false_eq_true]
    | true =>
      simp only [hknown, true_and]
      cases hnative : c.policy.isNative (renamed d.property) with
      | true =>
        rw [handle_native c hcustom hnative, succeeds_map, if_pos rfl]
        exact Value.translate_succeeds_iff
      | false =>
        rw [handle_other c hcustom hknown hnative, succeeds_map, if_neg Bool.false_ne_true]
        exact substitutes_succeeds_iff

theorem verdict_succeeds_iff {c : Converter} {r : Rule} :
    Succeeds (c.verdict r) ↔ Succeeds (c.header r.selectors) → ∀ d ∈ r.declarations, ¬c.Overflows d := by
  unfold verdict
  cases hheader : c.header r.selectors with
  | error reason => simp [Succeeds]
  | ok header =>
    refine (succeeds_map.trans succeeds_mapM).trans ?_
    simp only [succeeds_ok, true_implies, handle_succeeds_iff]

/-- A conversion succeeds just when no declaration of a rule with accepted selectors holds a computed length with too many digits. -/
theorem convertRules_succeeds_iff (c : Converter) (rules : List Rule) :
    Succeeds (c.convertRules rules) ↔
      ∀ r ∈ rules, Succeeds (c.header r.selectors) → ∀ d ∈ r.declarations, ¬c.Overflows d := by
  rw [convertRules]
  refine (succeeds_map.trans succeeds_mapM).trans ?_
  simp only [verdict_succeeds_iff]

/-- A length of 30 digits in a style sheet makes the conversion fail. -/
theorem convertRules_fails_longLength :
    ¬Succeeds ((bundled .empty).convertRules (Rule.ofCss ".a \x7b width: 999999999999999999999999999999em; \x7d")) := by
  have herror : ((bundled .empty).convertRules (Rule.ofCss ".a \x7b width: 999999999999999999999999999999em; \x7d"))
      = .error .invalid := by
    rw [bundled, Policy.bundled_eq]
    decide +kernel
  rw [herror]
  exact fun ⟨_, h⟩ => nomatch h

end Converter

end UiToolkit
