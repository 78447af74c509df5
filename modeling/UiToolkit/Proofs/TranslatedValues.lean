import UiToolkit.Proofs.Retranslation
import UiToolkit.Proofs.Terms

/-!
# Translated values are in normal form

A property that takes the whole value is given a text without the terms that give way. Its guarded spans are those of the value, and it is the value itself just when that had no such terms, so a second translation does nothing.
-/

namespace UiToolkit.Value

open Attempt Piece Text

/-! ### Values of blanks -/

theorem not_isBlank_of_isUnsigned {number : Text} (h : IsUnsigned number) : ∀ c ∈ number, isBlank c = false := by
  intro c hc
  refine Bool.eq_false_iff.mpr fun hblank => ?_
  have hnone := forall_blank (p := fun d => !(isDecimal d || d == '.')) (by decide) hblank
  have hchar := Numeral.isNumberChar_of_mem h c hc
  simp only [Bool.not_eq_true', Bool.or_eq_false_iff, beq_eq_false_iff_ne] at hnone
  exact hchar.elim (fun hd => Bool.false_ne_true (hnone.1.symm.trans hd)) hnone.2

theorem isNormal_of_isBlankText {s : Text} (h : isBlankText s = true) : IsNormal s := by
  have hall : ∀ c ∈ s, isBlank c = true := List.all_eq_true.mp h
  intro place hplace
  have hrest : ∀ c ∈ place.2, isBlank c = true := by
    intro c hc
    have hsource : place.1 ++ place.2 = s := append_of_mem_placesAfter hplace
    exact hall c (hsource ▸ List.mem_append_right place.1 hc)
  refine ⟨?_, ?_, ?_⟩
  · rintro ⟨-, digit, after, heq, -⟩
    exact absurd (hrest '.' (by simp [heq])) (by decide)
  · rintro ⟨-, unit, after, heq, hunit, -⟩
    obtain ⟨v, w, rfl, hv, -⟩ := exists_letters_of_viewport hunit
    have hnone := forall_blank (p := fun d => d.toLower != 'v') (by decide) (hrest v (by simp [heq]))
    exact bne_iff_ne.mp hnone hv
  · rintro ⟨-, sign, number, unit, after, heq, -, hnumber, -⟩
    obtain ⟨c, cs, rfl⟩ := List.exists_cons_of_ne_nil (Numeral.ne_nil_of_isUnsigned hnumber)
    have hblank := hrest c (by simp [heq])
    rw [not_isBlank_of_isUnsigned hnumber c List.mem_cons_self] at hblank
    cases hblank

/-! ### Whole values -/

variable {config : Option Config} {property value text : Text}

theorem translate_whole (hspacing : lower property ≠ "letter-spacing".toList)
    (hcolor : lower property ≠ "background-color".toList) (hsingle : lower property ∉ singleValued)
    (hcorner : isCornerRadius (lower property) = false) (hvalue : isBlankText value = false) :
    translate config property value = Pixels.convertEms (normalize value) := by
  have hother : ∀ name ∈ singleValued, lower property ≠ name := fun name hname heq => hsingle (heq ▸ hname)
  have hgradient : gradientFree.contains (lower property) = false := by
    rw [← Bool.not_eq_true, List.contains_iff_mem, gradientFree, List.mem_cons, List.mem_singleton, not_or]
    exact ⟨hother _ (by decide), hcolor⟩
  have htakes : takesPart property = false := by
    rw [takesPart, hcorner, Bool.or_false, ← Bool.not_eq_true, List.contains_iff_mem]
    exact hsingle
  rw [translate_eq hvalue (hother _ (by decide)) (hother _ (by decide)), hgradient, Bool.false_and,
    if_neg Bool.false_ne_true, partFor_of_not_takesPart htakes, finish, beq_false_of_ne hspacing]
  exact bind_pure _

/--
The translation of a whole value is in normal form, keeps the guarded spans, changes a value just when it was not in normal form, and does nothing when it is done again.
-/
theorem translate_isNormal (hspacing : lower property ≠ "letter-spacing".toList)
    (hcolor : lower property ≠ "background-color".toList) (hsingle : lower property ∉ singleValued)
    (hcorner : isCornerRadius (lower property) = false) (h : translate config property value = .ok text) :
    IsNormal text ∧ spans text = spans value ∧ (text = value ↔ IsNormal value) ∧
      translate config property text = .ok text := by
  cases hvalue : isBlankText value with
  | true =>
    have hsame : translate config property value = .ok value := by rw [translate, if_pos hvalue]
    obtain rfl : value = text := Except.ok.inj (hsame.symm.trans h)
    have hnormal := isNormal_of_isBlankText hvalue
    exact ⟨hnormal, rfl, ⟨fun _ => hnormal, fun _ => rfl⟩, hsame⟩
  | false =>
    rw [translate_whole hspacing hcolor hsingle hcorner hvalue] at h
    have hnormalized : normalize text = text := Pixels.normalize_convertEms (normalize_normalize value) h
    have hnormal : IsNormal text := by
      obtain ⟨hpoint, hviewport⟩ := hasNoTerm_normalize text
      rw [hnormalized] at hpoint hviewport
      obtain ⟨hwritten, -⟩ := Pixels.eq_rewrite_of_convertEms h
      exact isNormal_iff.mpr ⟨hpoint, hviewport, hwritten ▸ Pixels.hasNoTerm_em (normalize value)⟩
    refine ⟨hnormal, ?_, ⟨fun heq => heq ▸ hnormal, fun hsource => ?_⟩, ?_⟩
    · rw [Pixels.spans_convertEms h, spans_normalize]
    · obtain ⟨hpoint, hviewport, hlength⟩ := isNormal_iff.mp hsource
      rw [normalize_of_hasNoTerm hpoint hviewport, Pixels.convertEms_of_hasNoTerm hlength] at h
      exact (Except.ok.inj h).symm
    · cases hblank : isBlankText text with
      | true => rw [translate, if_pos hblank]
      | false =>
        rw [translate_whole hspacing hcolor hsingle hcorner hblank, hnormalized]
        exact Pixels.convertEms_convertEms h

/-- What stands in a call or in quotes is kept as it is; elsewhere a leading point and the units give way. -/
theorem translate_isNormal_width :
    translate none "Width" ".5em url(.5em) 50VW calc(1rem+.5px) '2em'" = .ok "8px url(.5em) 50% calc(16px+.5px) '2em'" ∧
      IsNormal "8px url(.5em) 50% calc(16px+.5px) '2em'" ∧
      spans "8px url(.5em) 50% calc(16px+.5px) '2em'" = spans ".5em url(.5em) 50VW calc(1rem+.5px) '2em'" ∧
      ¬IsNormal ".5em url(.5em) 50VW calc(1rem+.5px) '2em'" ∧
      translate none "Width" "8px url(.5em) 50% calc(16px+.5px) '2em'" = .ok "8px url(.5em) 50% calc(16px+.5px) '2em'" := by
  have h : translate none "Width" ".5em url(.5em) 50VW calc(1rem+.5px) '2em'" =
      .ok "8px url(.5em) 50% calc(16px+.5px) '2em'" := by decide +kernel
  obtain ⟨hnormal, hspans, hsame, hagain⟩ :=
    translate_isNormal (by decide) (by decide) (by decide) (by decide) h
  exact ⟨h, hnormal, hspans, fun hsource => absurd (hsame.mpr hsource) (by decide), hagain⟩

end UiToolkit.Value
