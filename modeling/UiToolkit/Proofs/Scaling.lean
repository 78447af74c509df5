import UiToolkit.Proofs.Numerals
import UiToolkit.Proofs.Overflow
import UiToolkit.Proofs.Passes
import UiToolkit.Proofs.WholeNumbers

/-!
# Scaled lengths

A relative length is a product that is cut to 28 significant digits before it is rounded to whole pixels. Two roundings in a row give the nearest whole number but for the numbers where the cut moves a half: it brings a product up to a half that it was below, which is then taken away from zero, or it takes the half of a product to the even side.
-/

namespace UiToolkit

namespace Decimal

/-! ### What the cut does to halves -/

theorem exists_half_eq {e : Int} (he : e < 0) (j : Nat) : ∃ h : Nat, (j : ℚ) + 1 / 2 = h * 10 ^ e := by
  obtain ⟨n, rfl⟩ : ∃ n : Nat, e = -((n : Int) + 1) := ⟨(-e - 1).toNat, by omega⟩
  refine ⟨(2 * j + 1) * 5 * 10 ^ n, ?_⟩
  rw [zpow_neg, zpow_add₀ (by norm_num), zpow_natCast]
  push_cast
  field_simp
  ring

theorem divHalfEven_compare (n : Nat) {d : Nat} (hd : 0 < d) (h : Nat) :
    ((n : ℚ) / d < h → (divHalfEven n d : ℚ) ≤ h) ∧ ((h : ℚ) ≤ n / d → (h : ℚ) ≤ divHalfEven n d) := by
  obtain ⟨hbelow, habove⟩ := abs_le.mp (abs_divHalfEven_sub_le n hd)
  constructor
  · intro hlt
    have hcut : (divHalfEven n d : ℚ) < h + 1 := by linarith
    exact_mod_cast Nat.lt_succ_iff.mp (by exact_mod_cast hcut)
  · intro hle
    have hcut : (h : ℚ) < divHalfEven n d + 1 := by linarith
    exact_mod_cast Nat.lt_succ_iff.mp (by exact_mod_cast hcut)

/-- A number below a half is not cut to one above it, and one that is not below is only cut to a smaller one when it is the half itself. -/
theorem half_rounded {d : Decimal} (hfits : d.magnitude + 1 / 2 < 10 ^ precision) (j : Nat) :
    (d.magnitude < j + 1 / 2 → d.rounded.magnitude ≤ j + 1 / 2) ∧
      ((j : ℚ) + 1 / 2 ≤ d.magnitude →
        (j : ℚ) + 1 / 2 ≤ d.rounded.magnitude ∨ d.magnitude = j + 1 / 2 ∧ d.rounded.magnitude = j) := by
  rcases Nat.lt_or_ge precision (digitCount d.coefficient) with hlong | hshort
  · obtain ⟨excess, hexcess⟩ : ∃ excess, digitCount d.coefficient = precision + (excess + 1) :=
      ⟨digitCount d.coefficient - precision - 1, by omega⟩
    have hpos : 0 < 10 ^ (excess + 1) := by positivity
    have hcompare := divHalfEven_compare d.coefficient hpos
    obtain ⟨hbelow, habove⟩ := abs_le.mp (abs_divHalfEven_sub_le d.coefficient hpos)
    have hquotient : ((10 ^ (precision - 1) : Nat) : ℚ) ≤ (d.coefficient : ℚ) / (10 ^ (excess + 1) : Nat) := by
      rw [le_div_iff₀ (by exact_mod_cast hpos)]
      exact_mod_cast (coefficient_bounds hexcess).1
    rw [magnitude_eq_div d excess] at hfits ⊢
    rw [magnitude_rounded hexcess]
    generalize (d.coefficient : ℚ) / (10 ^ (excess + 1) : Nat) = y at *
    generalize divHalfEven d.coefficient (10 ^ (excess + 1)) = q at *
    generalize d.exponent + (excess + 1 : Nat) = e at *
    rcases lt_trichotomy e 0 with he | rfl | he
    · have hunit : (0 : ℚ) < 10 ^ e := by positivity
      obtain ⟨h, hhalf⟩ := exists_half_eq he j
      rw [hhalf]
      constructor
      · intro hy
        have hcut := (hcompare h).1 (lt_of_mul_lt_mul_right hy hunit.le)
        exact mul_le_mul_of_nonneg_right hcut hunit.le
      · intro hy
        have hcut := (hcompare h).2 (le_of_mul_le_mul_right hy hunit)
        exact .inl (mul_le_mul_of_nonneg_right hcut hunit.le)
    · -- whole numbers are kept, so that only a half itself can go either way
      rw [zpow_zero, mul_one, mul_one]
      constructor
      · intro hy
        have hcut : (q : ℚ) < j + 1 := by linarith
        have hq : (q : ℚ) ≤ j := by exact_mod_cast Nat.lt_succ_iff.mp (by exact_mod_cast hcut)
        linarith
      · intro hy
        rcases Nat.lt_or_ge j q with hq | hq
        · have hnext : (j : ℚ) + 1 ≤ q := by exact_mod_cast hq
          left
          linarith
        · have hle : (q : ℚ) ≤ j := by exact_mod_cast hq
          right
          constructor <;> linarith
    · -- at least ten times the smallest number of 28 digits
      exfalso
      have hpow : (10 : ℚ) ≤ 10 ^ e := by
        calc (10 : ℚ) = 10 ^ (1 : ℤ) := by norm_num
          _ ≤ 10 ^ e := zpow_le_zpow_right₀ (by norm_num) (by omega)
      norm_num [precision] at hquotient hfits
      nlinarith
  · rw [rounded_of_short hshort]
    exact ⟨le_of_lt, .inl⟩

/-- The cut to 28 digits brings the product up to a half, or takes the half of the product away. -/
def MovesHalf (factor : Nat) (d : Decimal) : Prop :=
  ∃ m : Nat, ((d.scale factor).magnitude = m + 1 / 2 ∧ factor * d.magnitude < m + 1 / 2) ∨
    (factor * d.magnitude = m + 1 / 2 ∧ (d.scale factor).magnitude = m)

theorem not_movesHalf_of_short {d : Decimal} {factor : Nat} (h : digitCount (d.coefficient * factor) ≤ precision) :
    ¬d.MovesHalf factor := by
  have hsame : (d.scale factor).magnitude = factor * d.magnitude := by
    rw [scale, rounded_of_short h, magnitude_product]
  intro hmoves
  obtain ⟨m, ⟨hcut, hbelow⟩ | ⟨hhalf, hcut⟩⟩ := hmoves
  · exact absurd (hsame ▸ hcut) hbelow.ne
  · have := hcut.symm.trans (hsame.trans hhalf)
    linarith

theorem negative_rounded (d : Decimal) : d.rounded.negative = d.negative := by
  unfold rounded
  dsimp only
  split
  · rfl
  · split <;> rfl

theorem value_mul (d : Decimal) (factor : Nat) :
    factor * d.value = if d.negative then -(factor * d.magnitude) else factor * d.magnitude := by
  unfold value
  split <;> ring

/-- The rounded product is the whole number nearest to the exact one just when the cut moves no half. -/
theorem isNearest_round_scale_iff {d : Decimal} {factor : Nat} {k : Int} (h : (d.scale factor).round = .ok k) :
    IsNearest k (factor * d.value) ↔ ¬d.MovesHalf factor := by
  obtain ⟨m, hm, rfl⟩ := exists_of_round h
  obtain ⟨hlow, hhigh⟩ := wholeMagnitude?_spec hm
  have hfits : (⟨d.negative, d.coefficient * factor, d.exponent⟩ : Decimal).magnitude + 1 / 2 < 10 ^ precision := by
    rw [magnitude_product]
    exact exists_round_scale_iff.mp ⟨_, h⟩
  have hhalf := half_rounded hfits
  have hnonneg : 0 ≤ factor * d.magnitude := mul_nonneg (Nat.cast_nonneg _) d.magnitude_nonneg
  rw [magnitude_product] at hhalf
  rw [scale, negative_rounded, value_mul, isNearest_iff d.negative hnonneg, ← not_iff_not, not_not, not_and_or, not_le, not_lt]
  unfold MovesHalf
  rw [scale] at hlow hhigh ⊢
  generalize (⟨d.negative, d.coefficient * factor, d.exponent⟩ : Decimal).rounded.magnitude = cut at *
  generalize (factor : ℚ) * d.magnitude = x at *
  have hsame : ∀ j : Nat, (m : ℚ) < j + 1 → (j : ℚ) < m + 1 → m = j := by
    intro j hlt hgt
    have hle : m < j + 1 := by exact_mod_cast hlt
    have hge : j < m + 1 := by exact_mod_cast hgt
    omega
  constructor
  · intro h
    rcases h with hbelow | habove
    · obtain ⟨j, rfl⟩ : ∃ j, m = j + 1 := Nat.exists_eq_succ_of_ne_zero fun hzero => by
        rw [hzero, Nat.cast_zero] at hbelow
        linarith
      push_cast at *
      have hx : x < j + 1 / 2 := by linarith
      have hcut := (hhalf j).1 hx
      exact ⟨j, .inl ⟨by linarith, hx⟩⟩
    · rcases (hhalf m).2 (by linarith) with hcut | ⟨hx, hcut⟩
      · linarith
      · exact ⟨m, .inr ⟨hx, hcut⟩⟩
  · intro h
    obtain ⟨j, ⟨hcut, hx⟩ | ⟨hx, hcut⟩⟩ := h
    · have hm : m = j + 1 := hsame (j + 1) (by push_cast; linarith) (by push_cast; linarith)
      left
      rw [hm]
      push_cast
      linarith
    · have hm : m = j := hsame j (by linarith) (by linarith)
      right
      rw [hm]
      linarith

end Decimal

namespace Pixels

open Numeral Piece Text Value

theorem convertEms_append {numeral unit : Text} (hnumeral : IsNumeral numeral)
    (hunit : asciiLower unit ∈ ["em".toList, "rem".toList]) : convertEms (numeral ++ unit) = ofEm numeral := by
  obtain ⟨c, cs, rfl⟩ := List.exists_cons_of_ne_nil hnumeral.ne_nil
  have hguard : guardedExtent? c (cs ++ unit) = none :=
    guardedExtent?_eq_none (neverGuards_of (p := isNumeralChar) (by decide)
      (isNumeralChar_of_mem hnumeral c List.mem_cons_self)) _
  have hhead : ∀ d ∈ unit.head?, isDecimal d = false ∧ d ≠ '.' := by
    obtain ⟨letter, letters, rfl, hletter⟩ := exists_cons_of_unit hunit
    intro d hd
    exact Option.some.inj hd ▸ hletter
  have hextent : Numeral.extent? (c :: (cs ++ unit)) = some (c :: cs).length := by
    obtain ⟨sign, number, hsplit, hsign, hnumber⟩ := hnumeral
    rw [← List.cons_append, hsplit, List.append_assoc]
    exact extent?_of_isUnsigned hsign hnumber hhead
  have hsize : emExtent? unit = some unit.length := by
    have hsize := @emExtent?_of_unit unit [] hunit fun c hc => nomatch hc
    rwa [List.append_nil] at hsize
  have hread : readEm none c (cs ++ unit) = some ((cs ++ unit).length, c :: cs) := by
    have hdrop : (c :: (cs ++ unit)).drop (c :: cs).length = unit := by rw [← List.cons_append, List.drop_left]
    have htake : (c :: (cs ++ unit)).take (c :: cs).length = c :: cs := by rw [← List.cons_append, List.take_left]
    rw [readEm, Option.any_none, if_neg Bool.false_ne_true, hextent]
    simp only [Option.bind_eq_bind, Option.bind_some, hdrop, htake, hsize]
    simp [Nat.add_right_comm]
  have hscan : Piece.scan readEm (c :: cs ++ unit) = [.term (c :: cs ++ unit) (c :: cs)] := by
    rw [List.cons_append, Piece.scan, Piece.ofText_term hguard hread]
    simp
  rw [convertEms, hscan]
  cases h : ofEm (c :: cs) <;> simp [h]

/--
A relative length is written with the whole number of pixels nearest to sixteen times its numeral, a half taken away from zero, just when the cut of the product to 28 digits moves no half. With at most 26 digits there is no cut.
-/
theorem convertEms_isNearest_iff {numeral unit text : Text} (hnumeral : IsNumeral numeral)
    (hunit : asciiLower unit ∈ ["em".toList, "rem".toList]) (h : convertEms (numeral ++ unit) = .ok text) :
    ∃ k : Int, text = Text.ofInt k ++ "px".toList ∧
      (Decimal.IsNearest k (16 * (Decimal.ofNumeral numeral).value) ↔ ¬(Decimal.ofNumeral numeral).MovesHalf 16) ∧
      ((Decimal.ofNumeral numeral).coefficient < 10 ^ 26 →
        Decimal.IsNearest k (16 * (Decimal.ofNumeral numeral).value)) := by
  rw [convertEms_append hnumeral hunit, ofEm] at h
  obtain ⟨k, hk, htext⟩ := Attempt.bind_eq_ok.mp h
  have hnearest := Decimal.isNearest_round_scale_iff hk
  rw [show ((perEm : Nat) : ℚ) = 16 by norm_num [perEm]] at hnearest
  refine ⟨k, (Attempt.return_eq_ok.mp htext).symm, hnearest, fun hshort => hnearest.mpr ?_⟩
  apply Decimal.not_movesHalf_of_short
  apply Decimal.digitCount_le_iff.mpr
  rw [perEm]
  omega

theorem convertEms_isNearest_half :
    ∃ k : Int, "-41px".toList = Text.ofInt k ++ "px".toList ∧
      Decimal.IsNearest k (16 * (Decimal.ofNumeral "-2.53125".toList).value) := by
  have hnumeral : IsNumeral "-2.53125".toList :=
    ⟨['-'], "2.53125".toList, rfl, by decide, "2".toList, "53125".toList, by decide, by decide, .inl rfl⟩
  obtain ⟨k, htext, -, hnearest⟩ := @convertEms_isNearest_iff _ "rEM".toList "-41px".toList hnumeral
    (by decide) (by decide +kernel)
  exact ⟨k, htext, hnearest (by decide)⟩

/-- Just below half a pixel a length comes to a whole one, since its product has 30 digits. -/
theorem convertEms_not_nearest :
    convertEms "0.03124999999999999999999999999999em".toList = .ok (Text.ofInt 1 ++ "px".toList) ∧
      Decimal.IsNearest 0 (16 * (Decimal.ofNumeral "0.03124999999999999999999999999999".toList).value) ∧
      ¬Decimal.IsNearest 1 (16 * (Decimal.ofNumeral "0.03124999999999999999999999999999".toList).value) := by
  have hvalue : Decimal.ofNumeral "0.03124999999999999999999999999999".toList = ⟨false, 3124999999999999999999999999999, -32⟩ := by
    decide
  refine ⟨by decide +kernel, ?_, ?_⟩
  · rw [hvalue]
    norm_num [Decimal.IsNearest, Decimal.value, Decimal.magnitude, abs_of_pos]
  · rw [hvalue]
    norm_num [Decimal.IsNearest, Decimal.value, Decimal.magnitude, abs_of_pos]

end Pixels

end UiToolkit
