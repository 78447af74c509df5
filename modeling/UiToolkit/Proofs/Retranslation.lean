import UiToolkit.Proofs.Parts

/-!
# Translating a value again

A translated value is its own translation: the passes leave nothing to do, a part is its own first part, and no gradient comes in. Two properties are apart: a letter spacing in pixels is doubled each time, and a font is looked up among the assets.
-/

namespace UiToolkit.Value

open Attempt Piece Text

/-- A property that is given a part of its value. -/
def takesPart (property : Text) : Bool := singleValued.contains (lower property) || isCornerRadius (lower property)

/-- The part of a value that the property is given. -/
def partFor (property value : Text) : Text :=
  let text := if singleValued.contains (lower property) then trim (firstTopLevel ',' value) else value
  if isCornerRadius (lower property) then firstWord text else text

variable {config : Option Config} {property value text : Text}

/-- The lengths of the part in pixels; the doubling of letter spacing comes after that. -/
def finish (property part : Text) : Except RoundingError Text := do
  let text ← Pixels.convertEms part
  if lower property == "letter-spacing".toList then doublePixels text else return text

theorem translate_blank (hvalue : isBlankText value = true) : translate config property value = .ok value := by
  rw [translate, if_pos hvalue]

/-- What can be seen comes from a value that can be seen. -/
theorem not_blank_of_translate (h : translate config property value = .ok text) (hvisible : isBlankText text = false) :
    isBlankText value = false := by
  refine Bool.eq_false_iff.mpr fun hblank => ?_
  obtain rfl := Except.ok.inj ((translate_blank hblank).symm.trans h)
  rw [hblank] at hvisible
  cases hvisible

theorem translate_eq (hvalue : isBlankText value = false) (hfont : lower property ≠ "-unity-font".toList)
    (hdefinition : lower property ≠ "-unity-font-definition".toList) :
    translate config property value =
      if gradientFree.contains (lower property) && hasGradient (normalize value) then .ok "none"
      else finish property (partFor property (normalize value)) := by
  unfold translate
  rw [if_neg (by rw [hvalue]; exact Bool.false_ne_true)]
  simp only [beq_false_of_ne hfont, beq_false_of_ne hdefinition, Bool.false_eq_true, if_false]
  rfl

theorem translate_definition (hvalue : isBlankText value = false)
    (hdefinition : lower property = "-unity-font-definition".toList) :
    translate config property value = .ok (trim (firstTopLevel ',' (normalize value))) := by
  unfold translate
  rw [if_neg (by rw [hvalue]; exact Bool.false_ne_true)]
  simp only [hdefinition]
  rfl

theorem translate_font (hvalue : isBlankText value = false) (hfont : lower property = "-unity-font".toList) :
    translate config property value =
      .ok ((config.map (·.fontPath (trim (firstTopLevel ',' (normalize value))))).getD []) := by
  unfold translate
  rw [if_neg (by rw [hvalue]; exact Bool.false_ne_true)]
  simp only [hfont]
  rfl

theorem isPart_self (s : Text) : IsPart s s := ⟨[], [], by simp, by simp, by simp⟩

theorem singleValued_of_isCornerRadius (h : isCornerRadius (lower property) = true) :
    singleValued.contains (lower property) = false := by
  refine Bool.eq_false_iff.mpr fun hsingle => ?_
  have hall : ∀ name ∈ singleValued, isCornerRadius name = false := by decide
  rw [hall _ (List.contains_iff_mem.mp hsingle)] at h
  cases h

theorem isPart_partFor (hvalue : isBlankText value = false) : IsPart (partFor property value) value := by
  unfold partFor
  cases hcorner : isCornerRadius (lower property) with
  | true =>
    rw [singleValued_of_isCornerRadius hcorner]
    exact isPart_firstWord hvalue
  | false =>
    cases singleValued.contains (lower property) with
    | true => exact isPart_firstLayer value
    | false => exact isPart_self value

theorem partFor_of_not_takesPart (h : takesPart property = false) (value : Text) : partFor property value = value := by
  rw [takesPart, Bool.or_eq_false_iff] at h
  simp only [partFor, h.1, h.2, Bool.false_eq_true, if_false]

theorem isBlankText_of_recast {s t : Text} (h : Declaration.Recast s t) (ht : isBlankText t = true) : isBlankText s = true := by
  induction h with
  | nil => rfl
  | same c _ ih =>
    obtain ⟨hc, hrest⟩ := Bool.and_eq_true_iff.mp ht
    exact Bool.and_eq_true_iff.mpr ⟨hc, ih hrest⟩
  | run _ hv _ _ =>
    obtain ⟨c, v, rfl, hc⟩ := hv.exists_cons
    simp only [Declaration.isInert, (Bool.and_eq_true_iff.mp ht).1, Bool.not_true, Bool.and_false, Bool.false_and] at hc
    cases hc

theorem fillLeadingPoints_not_blank (h : isBlankText value = false) : isBlankText (fillLeadingPoints value) = false := by
  refine Bool.eq_false_iff.mpr fun hblank => ?_
  rw [isBlankText_of_recast (recast_fillLeadingPoints value) hblank] at h
  cases h

theorem normalize_not_blank (h : isBlankText value = false) : isBlankText (normalize value) = false := by
  refine Bool.eq_false_iff.mpr fun hblank => ?_
  have hfilled := isBlankText_of_recast (recast_viewportToPercent _) hblank
  rw [fillLeadingPoints_not_blank h] at hfilled
  cases hfilled

theorem doublePixels_cases (h : doublePixels value = .ok text) : text = value ∨ ∃ n : Int, text = Text.ofInt n ++ "px".toList := by
  unfold doublePixels at h
  split at h
  · split at h
    · obtain ⟨n, -, heq⟩ := bind_eq_ok.mp h
      exact .inr ⟨n, (return_eq_ok.mp heq).symm⟩
    · cases h
      exact .inl rfl
  · cases h
    exact .inl rfl

theorem partFor_convertEms (hvalue : isBlankText value = false) (h : Pixels.convertEms (partFor property value) = .ok text)
    (hvisible : isBlankText text = false) (htrim : trim text = text) : partFor property text = text := by
  unfold partFor at h ⊢
  cases hcorner : isCornerRadius (lower property) with
  | true =>
    rw [hcorner, singleValued_of_isCornerRadius hcorner] at h
    rw [singleValued_of_isCornerRadius hcorner]
    exact firstWord_of_no_blank hvisible
      (Pixels.not_isBlank_convertEms h fun c hc => not_isBlank_of_mem_firstWord hvalue hc)
  | false =>
    cases hsingle : singleValued.contains (lower property) with
    | true =>
      rw [hcorner, hsingle] at h
      exact firstLayer_convertEms h htrim
    | false => rfl

/-- What is written for a part is normalized, and has no gradient that the value did not have. -/
theorem normalize_of_convertEms (hvalue : isBlankText value = false) (hnormal : normalize value = value)
    (h : Pixels.convertEms (partFor property value) = .ok text) (hspans : takesPart property = true → ClosesSpans text) :
    normalize text = text ∧ (hasGradient text = true → hasGradient value = true) := by
  have hpart : IsPart (partFor property value) value := isPart_partFor hvalue
  refine ⟨Pixels.normalize_convertEms ?_ h, fun hgradient =>
    hasGradient_of_isPart hpart (hasGradient_of_recast (Pixels.recast_convertEms h) hgradient)⟩
  cases htakes : takesPart property with
  | true => exact normalize_of_isPart hpart (Pixels.closesSpans_of_convertEms h (hspans htakes)) hnormal
  | false => rwa [partFor_of_not_takesPart htakes]

theorem finish_eq_self (hconvert : Pixels.convertEms text = .ok text)
    (hdouble : lower property = "letter-spacing".toList → doublePixels text = .ok text) : finish property text = .ok text := by
  refine bind_eq_ok.mpr ⟨text, hconvert, ?_⟩
  split
  · rename_i hname
    exact hdouble (beq_iff_eq.mp hname)
  · rfl

theorem translate_none (hname : gradientFree.contains (lower property) = true) :
    translate config property "none" = .ok "none".toList := by
  have hnames : lower property = "background-image".toList ∨ lower property = "background-color".toList := by
    simpa [gradientFree] using hname
  rcases hnames with hname | hname <;>
    · rw [translate_eq (by decide) (by rw [hname]; decide) (by rw [hname]; decide)]
      simp only [finish, partFor, hname]
      decide +kernel

theorem translate_zeroSpacing (hname : lower property = "letter-spacing".toList) :
    translate config property "0px" = .ok "0px".toList := by
  rw [translate_eq (by decide) (by rw [hname]; decide) (by rw [hname]; decide)]
  simp only [finish, partFor, hname]
  decide +kernel

theorem translate_translate (h : translate config property value = .ok text) (hvisible : isBlankText text = false)
    (htrim : trim text = text) (hfont : lower property ≠ "-unity-font".toList)
    (hspans : takesPart property = true → ClosesSpans text)
    (hspacing : lower property = "letter-spacing".toList → ∀ n : Int, n ≠ 0 → text ≠ Text.ofInt n ++ "px".toList) :
    translate config property text = .ok text := by
  have hvalue : isBlankText value = false := not_blank_of_translate h hvisible
  by_cases hdefinition : lower property = "-unity-font-definition".toList
  · rw [translate_definition hvalue hdefinition] at h
    cases h
    have htakes : takesPart property = true := by
      rw [takesPart, hdefinition]
      decide
    rw [translate_definition hvisible hdefinition,
      normalize_of_isPart (isPart_firstLayer _) (hspans htakes) (normalize_normalize value), firstTopLevel_of_isWhole ?_, htrim]
    rw [firstTopLevel_eq]
    exact isWhole_trim (isWhole_firstFrom ',' Nesting.top _)
  · rw [translate_eq hvalue hfont hdefinition] at h
    split at h
    · rename_i hgradient
      cases h
      exact translate_none (Bool.and_eq_true_iff.mp hgradient).1
    · rename_i hgradient
      have hwhole := normalize_not_blank hvalue
      -- unless the doubling wrote a length, the text is what the part was converted to
      have hsettled : ∀ px, Pixels.convertEms (partFor property (normalize value)) = .ok px → text = px →
          (lower property = "letter-spacing".toList → doublePixels text = .ok text) →
          translate config property text = .ok text := by
        rintro px hpx rfl hdouble
        obtain ⟨hnormal, hkeeps⟩ := normalize_of_convertEms hwhole (normalize_normalize value) hpx hspans
        rw [translate_eq hvisible hfont hdefinition, hnormal, partFor_convertEms hwhole hpx hvisible htrim,
          finish_eq_self (Pixels.convertEms_convertEms hpx) hdouble, if_neg]
        simp only [Bool.and_eq_true, not_and] at hgradient ⊢
        exact fun hname htext => hgradient hname (hkeeps htext)
      obtain ⟨px, hpx, h⟩ := bind_eq_ok.mp h
      split at h
      · rename_i hname
        rcases doublePixels_cases h with rfl | ⟨n, rfl⟩
        · exact hsettled _ hpx rfl fun _ => h
        · have hzero : n = 0 := by
            by_contra hne
            exact hspacing (beq_iff_eq.mp hname) n hne rfl
          subst hzero
          exact translate_zeroSpacing (beq_iff_eq.mp hname)
      · rename_i hname
        exact hsettled px hpx (return_eq_ok.mp h).symm fun heq => absurd (beq_iff_eq.mpr heq) hname

end UiToolkit.Value
