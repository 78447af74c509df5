import Mathlib.Algebra.Order.Field.Power
import Mathlib.Tactic.FieldSimp
import Mathlib.Tactic.Linarith
import Mathlib.Tactic.NormNum
import Mathlib.Tactic.Positivity
import Mathlib.Tactic.Ring
import UiToolkit.Decimal.Basic

/-!
# When a product has a rounded value

A decimal stands for a rational number. Rounding it to a whole number succeeds when the whole number has at most 28 digits, and this is so whether or not the decimal was cut to 28 significant digits before: the cut only matters for numbers below that bound, and a half goes to the even neighbour, which is the larger one at the bound itself.
-/

namespace UiToolkit.Decimal

/-- The absolute value. -/
def magnitude (d : Decimal) : ℚ := d.coefficient * 10 ^ d.exponent

/-- The nearest whole number to the product with the factor has at most 28 digits. -/
def Fits (factor : Nat) (d : Decimal) : Prop := factor * d.magnitude + 1 / 2 < 10 ^ precision

theorem magnitude_nonneg (d : Decimal) : 0 ≤ d.magnitude := by
  unfold magnitude
  positivity

theorem digitCount_pos (n : Nat) : 0 < digitCount n := by
  unfold digitCount
  split <;> omega

theorem digitCount_le_iff {n k : Nat} : digitCount n ≤ k + 1 ↔ n < 10 ^ (k + 1) := by
  induction k generalizing n with
  | zero =>
    unfold digitCount
    have := digitCount_pos (n / 10)
    split <;> omega
  | succ k ih =>
    unfold digitCount
    have hpos : 0 < 10 ^ (k + 1) := by positivity
    have hsucc : 10 ^ (k + 1 + 1) = 10 * 10 ^ (k + 1) := Nat.pow_succ'
    split
    · have := digitCount_pos n
      omega
    · rw [Nat.add_le_add_iff_right, ih]
      omega

/-! ### Rounding to a whole number -/

theorem divHalfUp_spec (n : Nat) {d : Nat} (hd : 0 < d) :
    (divHalfUp n d : ℚ) ≤ n / d + 1 / 2 ∧ (n : ℚ) / d + 1 / 2 < divHalfUp n d + 1 := by
  have hd' : (0 : ℚ) < d := by exact_mod_cast hd
  have hsum : (n : ℚ) / d + 1 / 2 = ((2 * n + d : Nat) : ℚ) / (2 * d : Nat) := by
    push_cast
    field_simp
  have hlow : divHalfUp n d * (2 * d) ≤ 2 * n + d := Nat.div_mul_le_self _ _
  have hhigh : 2 * n + d < (divHalfUp n d + 1) * (2 * d) := Nat.lt_mul_of_div_lt (Nat.lt_succ_self _) (by omega)
  have hpos : (0 : ℚ) < (2 * d : Nat) := by exact_mod_cast (by omega : 0 < 2 * d)
  rw [hsum]
  constructor
  · rw [le_div_iff₀ hpos]
    exact_mod_cast hlow
  · rw [div_lt_iff₀ hpos]
    exact_mod_cast hhigh

theorem le_magnitude_of_wholeMagnitude?_eq_none {d : Decimal} (h : d.wholeMagnitude? = none) :
    10 ^ precision ≤ d.magnitude := by
  unfold wholeMagnitude? at h
  split at h
  · rename_i e he
    split at h
    · cases h
    · rename_i hzero
      split at h
      · rename_i hlarge
        have hone : (1 : ℚ) ≤ d.coefficient := by exact_mod_cast Nat.one_le_iff_ne_zero.mpr hzero
        have hpow : (10 : ℚ) ^ precision ≤ 10 ^ e := pow_le_pow_right₀ (by norm_num) (le_of_lt hlarge)
        have hexp : (10 : ℚ) ^ d.exponent = 10 ^ e := by rw [he]; exact zpow_natCast 10 e
        rw [magnitude, hexp]
        nlinarith [pow_pos (by norm_num : (0 : ℚ) < 10) e]
      · cases h
  · split at h <;> cases h

/-- The whole magnitude is the magnitude rounded, a half upwards. -/
theorem wholeMagnitude?_spec {d : Decimal} {m : Nat} (h : d.wholeMagnitude? = some m) :
    (m : ℚ) ≤ d.magnitude + 1 / 2 ∧ d.magnitude + 1 / 2 < m + 1 := by
  unfold wholeMagnitude? at h
  split at h
  · rename_i e he
    have hmagnitude : d.magnitude = ((d.coefficient * 10 ^ e : Nat) : ℚ) := by
      rw [magnitude, he]
      push_cast
      rfl
    have hm : m = d.coefficient * 10 ^ e := by
      split at h
      · rename_i hzero
        cases h
        rw [hzero, Nat.zero_mul]
      · split at h
        · cases h
        · exact (Option.some.inj h).symm
    rw [hmagnitude, hm]
    constructor <;> linarith
  · rename_i e he
    have hpow : (0 : ℚ) < 10 ^ (e + 1) := by positivity
    have hmagnitude : d.magnitude = (d.coefficient : ℚ) / ((10 ^ (e + 1) : Nat) : ℚ) := by
      rw [magnitude, he, zpow_negSucc]
      push_cast
      rfl
    split at h
    · rename_i hsmall
      cases h
      -- fewer digits than the power has zeros leave less than a tenth
      have hlt : d.coefficient < 10 ^ e := by
        cases e with
        | zero =>
          have := digitCount_pos d.coefficient
          omega
        | succ e => exact digitCount_le_iff.mp (by omega)
      have htenth : (d.coefficient : ℚ) < 10 ^ e := by exact_mod_cast hlt
      have hbound : d.magnitude < 1 / 2 := by
        rw [hmagnitude, div_lt_iff₀ (by exact_mod_cast hpow)]
        push_cast
        rw [pow_succ]
        linarith [pow_pos (by norm_num : (0 : ℚ) < 10) e]
      have := d.magnitude_nonneg
      push_cast
      constructor <;> linarith
    · cases h
      rw [hmagnitude]
      exact divHalfUp_spec _ (Nat.pow_pos (by norm_num))

theorem eq_invalid_of_round_eq_error {d : Decimal} {e : RoundingError} (h : d.round = .error e) : e = .invalid := by
  unfold round at h
  split at h
  · cases h
    rfl
  · split at h
    · cases h
      rfl
    · cases h

/-- A decimal has a rounded value just when that value has at most 28 digits. -/
theorem exists_round_iff {d : Decimal} : (∃ k, d.round = .ok k) ↔ d.magnitude + 1 / 2 < 10 ^ precision := by
  unfold round
  cases hwhole : d.wholeMagnitude? with
  | none =>
    have := le_magnitude_of_wholeMagnitude?_eq_none hwhole
    simp only [reduceCtorEq, exists_false, false_iff, not_lt]
    linarith
  | some m =>
    obtain ⟨hlow, hhigh⟩ := wholeMagnitude?_spec hwhole
    have hbound : m < 10 ^ precision ↔ d.magnitude + 1 / 2 < 10 ^ precision := by
      constructor
      · intro hm
        have : (m : ℚ) + 1 ≤ 10 ^ precision := by exact_mod_cast hm
        linarith
      · intro hd
        have : (m : ℚ) < 10 ^ precision := by linarith
        exact_mod_cast this
    rw [← hbound]
    change (∃ k, (if 10 ^ precision ≤ m then _ else _) = Except.ok k) ↔ _
    split
    · simp only [reduceCtorEq, exists_false, false_iff]
      omega
    · simp only [Except.ok.injEq, exists_eq', true_iff]
      omega

/-! ### Cutting to 28 significant digits -/

theorem divHalfEven_lt_iff {n d bound : Nat} (hd : 0 < d) (heven : bound % 2 = 0) (hn : n < bound * d) :
    divHalfEven n d < bound ↔ 2 * n + d < 2 * bound * d := by
  have hq : n / d < bound := (Nat.div_lt_iff_lt_mul hd).mpr hn
  have hr : n % d < d := Nat.mod_lt n hd
  have hsplit : n = n / d * d + n % d := (Nat.div_add_mod' n d).symm
  unfold divHalfEven
  generalize n / d = q at *
  generalize n % d = r at *
  subst hsplit
  obtain ⟨gap, rfl⟩ : ∃ gap, bound = q + 1 + gap := ⟨bound - (q + 1), by omega⟩
  have hexpand : 2 * (q + 1 + gap) * d = 2 * (q * d) + 2 * d + 2 * (gap * d) := by ring
  have hdouble : 2 * (q * d + r) = 2 * (q * d) + 2 * r := by ring
  rw [hexpand, hdouble]
  rcases Nat.eq_zero_or_pos gap with rfl | hgap
  · -- the last whole number below the bound is odd, so that a half goes up to the bound
    simp only [Bool.or_eq_true, decide_eq_true_eq, Bool.and_eq_true, beq_iff_eq]
    split <;> omega
  · have hstep : d ≤ gap * d := Nat.le_mul_of_pos_left d hgap
    simp only [Bool.or_eq_true, decide_eq_true_eq, Bool.and_eq_true, beq_iff_eq]
    split <;> omega

/-- The quotient is rounded to a nearest whole number. -/
theorem abs_divHalfEven_sub_le (n : Nat) {d : Nat} (hd : 0 < d) : |(divHalfEven n d : ℚ) - n / d| ≤ 1 / 2 := by
  have hd' : (0 : ℚ) < d := by exact_mod_cast hd
  have hsplit : (n : ℚ) = (n / d : Nat) * d + (n % d : Nat) := by exact_mod_cast (Nat.div_add_mod' n d).symm
  have hquotient : (n : ℚ) / d = (n / d : Nat) + ((n % d : Nat) : ℚ) / d := by
    rw [div_eq_iff hd'.ne', add_mul, div_mul_cancel₀ _ hd'.ne']
    exact hsplit
  have hremainder : 0 ≤ ((n % d : Nat) : ℚ) / d ∧ ((n % d : Nat) : ℚ) / d < 1 := by
    refine ⟨by positivity, ?_⟩
    rw [div_lt_one hd']
    exact_mod_cast Nat.mod_lt n hd
  rw [hquotient, divHalfEven, abs_le]
  simp only [Bool.or_eq_true, Bool.and_eq_true, decide_eq_true_eq, beq_iff_eq]
  split
  · rename_i hlow
    have hhalf : ((n % d : Nat) : ℚ) / d ≤ 1 / 2 := by
      rw [div_le_div_iff₀ hd' two_pos]
      exact_mod_cast (by omega : n % d * 2 ≤ 1 * d)
    constructor <;> linarith
  · rename_i hhigh
    have hhalf : 1 / 2 ≤ ((n % d : Nat) : ℚ) / d := by
      rw [div_le_div_iff₀ two_pos hd']
      exact_mod_cast (by omega : 1 * d ≤ n % d * 2)
    push_cast
    constructor <;> linarith

theorem divHalfEven_bounds {n d low high : Nat} (hd : 0 < d) (hlow : low * d ≤ n) (hhigh : n < high * d) :
    low ≤ divHalfEven n d ∧ divHalfEven n d ≤ high := by
  have h1 : low ≤ n / d := (Nat.le_div_iff_mul_le hd).mpr hlow
  have h2 : n / d < high := (Nat.div_lt_iff_lt_mul hd).mpr hhigh
  unfold divHalfEven
  simp only
  split <;> omega

theorem coefficient_bounds {d : Decimal} {excess : Nat} (hexcess : digitCount d.coefficient = precision + (excess + 1)) :
    10 ^ (precision - 1) * 10 ^ (excess + 1) ≤ d.coefficient ∧ d.coefficient < 10 ^ precision * 10 ^ (excess + 1) := by
  rw [← Nat.pow_add, ← Nat.pow_add]
  constructor
  · refine Nat.not_lt.mp fun hlt => ?_
    have : digitCount d.coefficient ≤ precision - 1 + excess + 1 := digitCount_le_iff.mpr hlt
    simp only [precision] at *
    omega
  · exact digitCount_le_iff.mp (le_of_eq hexcess)

theorem magnitude_eq_div (d : Decimal) (excess : Nat) :
    d.magnitude = (d.coefficient : ℚ) / ((10 ^ (excess + 1) : Nat) : ℚ) * 10 ^ (d.exponent + (excess + 1 : Nat)) := by
  rw [magnitude, zpow_add₀ (by norm_num : (10 : ℚ) ≠ 0), zpow_natCast]
  push_cast
  field_simp

theorem rounded_of_short {d : Decimal} (h : digitCount d.coefficient ≤ precision) : d.rounded = d := by
  have hsub : digitCount d.coefficient - precision = 0 := by omega
  rw [rounded, hsub, if_pos rfl]

theorem magnitude_rounded {d : Decimal} {excess : Nat} (hexcess : digitCount d.coefficient = precision + (excess + 1)) :
    d.rounded.magnitude = divHalfEven d.coefficient (10 ^ (excess + 1)) * 10 ^ (d.exponent + (excess + 1 : Nat)) := by
  have hsub : digitCount d.coefficient - precision = excess + 1 := by omega
  unfold rounded
  rw [hsub, if_neg (by omega)]
  change (if digitCount (divHalfEven d.coefficient (10 ^ (excess + 1))) ≤ precision then _ else _ : Decimal).magnitude = _
  split
  · rfl
  · rename_i hlong
    have hle : divHalfEven d.coefficient (10 ^ (excess + 1)) ≤ 10 ^ precision :=
      (divHalfEven_bounds (by positivity) (by rw [Nat.zero_mul]; exact Nat.zero_le _) (coefficient_bounds hexcess).2).2
    have hge : 10 ^ precision ≤ divHalfEven d.coefficient (10 ^ (excess + 1)) := by
      rw [precision] at hlong ⊢
      exact Nat.not_lt.mp fun hlt => hlong (digitCount_le_iff.mpr hlt)
    have heq := le_antisymm hle hge
    have htenth : ((10 ^ precision / 10 : Nat) : ℚ) * 10 = ((10 ^ precision : Nat) : ℚ) := by
      norm_num [precision]
    change ((divHalfEven d.coefficient (10 ^ (excess + 1)) / 10 : Nat) : ℚ) * 10 ^ (d.exponent + (excess + 1 : Nat) + 1) = _
    rw [heq, zpow_add_one₀ (by norm_num : (10 : ℚ) ≠ 0), ← htenth]
    ring

/-- Cutting a decimal to 28 significant digits does not decide whether it has a rounded value. -/
theorem rounded_lt_iff (d : Decimal) :
    d.rounded.magnitude + 1 / 2 < 10 ^ precision ↔ d.magnitude + 1 / 2 < 10 ^ precision := by
  rcases Nat.lt_or_ge precision (digitCount d.coefficient) with hlong | hshort
  · obtain ⟨excess, hexcess⟩ : ∃ excess, digitCount d.coefficient = precision + (excess + 1) :=
      ⟨digitCount d.coefficient - precision - 1, by omega⟩
    have hpos : 0 < 10 ^ (excess + 1) := by positivity
    obtain ⟨hlow, hhigh⟩ := coefficient_bounds hexcess
    obtain ⟨hqlow, hqhigh⟩ := divHalfEven_bounds hpos hlow hhigh
    have hiff := divHalfEven_lt_iff hpos (by norm_num [precision]) hhigh
    rw [magnitude_rounded hexcess, magnitude_eq_div d excess]
    generalize divHalfEven d.coefficient (10 ^ (excess + 1)) = q at *
    generalize d.exponent + (excess + 1 : Nat) = e at *
    have hpos' : (0 : ℚ) < (10 ^ (excess + 1) : Nat) := by exact_mod_cast hpos
    have hquotientLow : ((10 ^ (precision - 1) : Nat) : ℚ) ≤ (d.coefficient : ℚ) / (10 ^ (excess + 1) : Nat) := by
      rw [le_div_iff₀ hpos']
      exact_mod_cast hlow
    have hquotientHigh : (d.coefficient : ℚ) / (10 ^ (excess + 1) : Nat) < (10 ^ precision : Nat) := by
      rw [div_lt_iff₀ hpos']
      exact_mod_cast hhigh
    have hq1 : ((10 ^ (precision - 1) : Nat) : ℚ) ≤ q := by exact_mod_cast hqlow
    have hq2 : (q : ℚ) ≤ (10 ^ precision : Nat) := by exact_mod_cast hqhigh
    simp only [precision] at *
    have hleast : ((10 ^ 27 : Nat) : ℚ) = 10 ^ 27 := by norm_num
    have hmost : ((10 ^ 28 : Nat) : ℚ) = 10 ^ 28 := by norm_num
    rw [hleast] at hq1 hquotientLow
    rw [hmost] at hq2 hquotientHigh
    rcases lt_trichotomy e 0 with he | rfl | he
    · -- a fraction: both are far below the bound
      have hpow : (10 : ℚ) ^ e ≤ 1 / 10 := by
        calc (10 : ℚ) ^ e ≤ 10 ^ (-1 : ℤ) := zpow_le_zpow_right₀ (by norm_num) (by omega)
          _ = 1 / 10 := by norm_num
      have hpow0 : (0 : ℚ) < 10 ^ e := by positivity
      have hsmall : ∀ x : ℚ, x ≤ 10 ^ 28 → x * 10 ^ e + 1 / 2 < 10 ^ 28 := by
        intro x hx
        nlinarith
      exact ⟨fun _ => hsmall _ hquotientHigh.le, fun _ => hsmall _ hq2⟩
    · have hcast : (d.coefficient : ℚ) / (10 ^ (excess + 1) : Nat) + 1 / 2 < 10 ^ 28 ↔
          2 * d.coefficient + 10 ^ (excess + 1) < 2 * 10 ^ 28 * 10 ^ (excess + 1) := by
        rw [div_add_div _ _ hpos'.ne' (by norm_num), div_lt_iff₀ (by positivity)]
        constructor
        · intro h
          have : (2 * d.coefficient + 10 ^ (excess + 1) : ℚ) < 2 * 10 ^ 28 * 10 ^ (excess + 1) := by
            push_cast at h
            linarith
          exact_mod_cast this
        · intro h
          have : (2 * d.coefficient + 10 ^ (excess + 1) : ℚ) < 2 * 10 ^ 28 * 10 ^ (excess + 1) := by exact_mod_cast h
          push_cast
          linarith
      have hwhole : (q : ℚ) + 1 / 2 < 10 ^ 28 ↔ q < 10 ^ 28 := by
        constructor
        · intro h
          have : (q : ℚ) < 10 ^ 28 := by linarith
          exact_mod_cast this
        · intro h
          have : (q : ℚ) + 1 ≤ 10 ^ 28 := by exact_mod_cast h
          linarith
      rw [zpow_zero, mul_one, mul_one, hcast, hwhole, hiff]
    · -- at least ten times the smallest number of 28 digits
      have hpow : (10 : ℚ) ≤ 10 ^ e := by
        calc (10 : ℚ) = 10 ^ (1 : ℤ) := by norm_num
          _ ≤ 10 ^ e := zpow_le_zpow_right₀ (by norm_num) (by omega)
      have hlarge : ∀ x : ℚ, 10 ^ 27 ≤ x → ¬ x * 10 ^ e + 1 / 2 < 10 ^ 28 := by
        intro x hx
        nlinarith
      exact ⟨fun h => absurd h (hlarge _ hq1), fun h => absurd h (hlarge _ hquotientLow)⟩
  · rw [rounded_of_short hshort]

theorem magnitude_product (d : Decimal) (factor : Nat) :
    (⟨d.negative, d.coefficient * factor, d.exponent⟩ : Decimal).magnitude = factor * d.magnitude := by
  simp only [magnitude]
  push_cast
  ring

theorem exists_round_scale_iff {d : Decimal} {factor : Nat} :
    (∃ k, (d.scale factor).round = .ok k) ↔ d.Fits factor := by
  rw [exists_round_iff, scale, rounded_lt_iff, Fits, magnitude_product]

end UiToolkit.Decimal
