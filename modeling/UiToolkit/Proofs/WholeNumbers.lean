import Mathlib.Data.Rat.Floor
import UiToolkit.Proofs.Rounding

/-!
# Rounding to whole numbers

A decimal stands for a rational number, to which one whole number is nearest, where of two such numbers the one away from zero counts. Rounding gives that number when it has at most 28 digits, and refuses the decimal otherwise. So numbers of opposite sign are rounded to numbers of opposite sign, and a larger number is not rounded to a smaller one.
-/

namespace UiToolkit.Decimal

/-- The number that a decimal stands for. -/
def value (d : Decimal) : ℚ := if d.negative then -d.magnitude else d.magnitude

/-- The decimal with the other sign, with all its digits. -/
instance : Neg Decimal where
  neg d := ⟨!d.negative, d.coefficient, d.exponent⟩

@[simp] theorem value_neg (d : Decimal) : (-d).value = -d.value := by
  change (if !d.negative then -d.magnitude else d.magnitude) = -(if d.negative then -d.magnitude else d.magnitude)
  cases d.negative <;> simp

/-- The whole number nearest to `q`, and of two such numbers the one away from zero. -/
def IsNearest (k : Int) (q : ℚ) : Prop := |(k : ℚ) - q| ≤ 1 / 2 ∧ (|(k : ℚ) - q| = 1 / 2 → |q| < |(k : ℚ)|)

/-! ### Nearest whole numbers -/

theorem IsNearest.neg {k : Int} {q : ℚ} (h : IsNearest k q) : IsNearest (-k) (-q) := by
  unfold IsNearest at h ⊢
  rwa [Int.cast_neg, neg_sub_neg, abs_sub_comm, abs_neg, abs_neg]

theorem isNearest_iff (negative : Bool) {m : Nat} {x : ℚ} (hx : 0 ≤ x) :
    IsNearest (if negative then -(m : Int) else m) (if negative then -x else x) ↔ (m : ℚ) ≤ x + 1 / 2 ∧ x + 1 / 2 < m + 1 := by
  have hpositive : IsNearest m x ↔ (m : ℚ) ≤ x + 1 / 2 ∧ x + 1 / 2 < m + 1 := by
    rw [IsNearest, abs_le, abs_eq (by norm_num), abs_of_nonneg hx, Int.cast_natCast, Nat.abs_cast]
    constructor
    · intro h
      obtain ⟨⟨hlow, hhigh⟩, htie⟩ := h
      refine ⟨by linarith, lt_of_le_of_ne (by linarith) fun heq => ?_⟩
      have := htie (.inr (by linarith))
      linarith
    · intro h
      obtain ⟨hlow, hhigh⟩ := h
      refine ⟨⟨by linarith, by linarith⟩, fun htie => ?_⟩
      rcases htie with htie | htie <;> linarith
  cases negative with
  | false => exact hpositive
  | true =>
    rw [if_pos rfl, if_pos rfl, ← hpositive]
    constructor
    · intro h
      simpa using h.neg
    · exact IsNearest.neg

theorem IsNearest.mono {j k : Int} {q r : ℚ} (hj : IsNearest j q) (hk : IsNearest k r) (h : q ≤ r) : j ≤ k := by
  obtain ⟨hjq, hjtie⟩ := hj
  obtain ⟨hkr, hktie⟩ := hk
  by_contra hlt
  have hstep : (k : ℚ) + 1 ≤ j := by exact_mod_cast (by omega : k + 1 ≤ j)
  obtain ⟨hjlow, hjhigh⟩ := abs_le.mp hjq
  obtain ⟨hklow, hkhigh⟩ := abs_le.mp hkr
  -- otherwise both numbers are the one halfway between `k` and `j`, which is nearer to zero than only one of the two
  have hj : (j : ℚ) = k + 1 := by linarith
  have hq : q = k + 1 / 2 := by linarith
  have hr : r = k + 1 / 2 := by linarith
  rw [hj, hq] at hjtie
  rw [hr] at hktie
  have hbelow := hjtie (by norm_num [abs_of_pos])
  have habove := hktie (by norm_num)
  rcases Int.lt_or_le k 0 with hneg | hnonneg
  · have hk : (k : ℚ) + 1 ≤ 0 := by exact_mod_cast hneg
    rw [abs_of_nonpos hk, abs_of_nonpos (by linarith)] at hbelow
    linarith
  · have hk : (0 : ℚ) ≤ k := by exact_mod_cast hnonneg
    rw [abs_of_nonneg hk, abs_of_nonneg (by linarith)] at habove
    linarith

theorem IsNearest.unique {j k : Int} {q : ℚ} (hj : IsNearest j q) (hk : IsNearest k q) : j = k :=
  le_antisymm (hj.mono hk le_rfl) (hk.mono hj le_rfl)

variable {d : Decimal} {k : Int}

theorem exists_isNearest (d : Decimal) :
    ∃ m : Nat, IsNearest (if d.negative then -(m : Int) else m) d.value ∧
      (m : ℚ) ≤ d.magnitude + 1 / 2 ∧ d.magnitude + 1 / 2 < m + 1 := by
  have hnonneg : 0 ≤ d.magnitude + 1 / 2 := by linarith [d.magnitude_nonneg]
  have hfloor := And.intro (Nat.floor_le hnonneg) (Nat.lt_floor_add_one (d.magnitude + 1 / 2))
  exact ⟨⌊d.magnitude + 1 / 2⌋₊, (isNearest_iff d.negative d.magnitude_nonneg).mpr hfloor, hfloor⟩

theorem IsNearest.digitCount_le_iff (h : IsNearest k d.value) :
    digitCount k.natAbs ≤ precision ↔ d.magnitude + 1 / 2 < 10 ^ precision := by
  obtain ⟨m, hm, hlow, hhigh⟩ := exists_isNearest d
  have habs : k.natAbs = m := by
    rw [h.unique hm]
    split <;> omega
  have hdigits : digitCount m ≤ precision ↔ m < 10 ^ precision := Decimal.digitCount_le_iff
  rw [habs, hdigits]
  constructor
  · intro hlt
    have : (m : ℚ) + 1 ≤ 10 ^ precision := by exact_mod_cast hlt
    linarith
  · intro hlt
    have : (m : ℚ) < 10 ^ precision := by linarith
    exact_mod_cast this

/-! ### Rounded decimals -/

theorem exists_of_round (h : d.round = .ok k) :
    ∃ m, d.wholeMagnitude? = some m ∧ k = if d.negative then -(m : Int) else m := by
  unfold round at h
  split at h
  · cases h
  · rename_i m hm
    split at h
    · cases h
    · exact ⟨m, hm, (Except.ok.inj h).symm⟩

theorem isNearest_of_round (h : d.round = .ok k) : IsNearest k d.value := by
  obtain ⟨m, hm, rfl⟩ := exists_of_round h
  exact (isNearest_iff d.negative d.magnitude_nonneg).mpr (wholeMagnitude?_spec hm)

theorem round_eq_ok_iff : d.round = .ok k ↔ IsNearest k d.value ∧ digitCount k.natAbs ≤ precision := by
  constructor
  · intro h
    have hnearest := isNearest_of_round h
    exact ⟨hnearest, hnearest.digitCount_le_iff.mpr (exists_round_iff.mp ⟨k, h⟩)⟩
  · intro h
    obtain ⟨hnearest, hshort⟩ := h
    obtain ⟨j, hj⟩ := exists_round_iff.mpr (hnearest.digitCount_le_iff.mp hshort)
    rw [hj, (isNearest_of_round hj).unique hnearest]

theorem round_eq_invalid_iff : d.round = .error .invalid ↔ ∃ k, IsNearest k d.value ∧ precision < digitCount k.natAbs := by
  constructor
  · intro h
    obtain ⟨m, hnearest, -⟩ := exists_isNearest d
    refine ⟨_, hnearest, Nat.lt_of_not_le fun hshort => ?_⟩
    rw [round_eq_ok_iff.mpr ⟨hnearest, hshort⟩] at h
    cases h
  · intro h
    obtain ⟨k, hnearest, hlong⟩ := h
    cases hround : d.round with
    | ok j =>
      obtain ⟨hj, hshort⟩ := round_eq_ok_iff.mp hround
      rw [hj.unique hnearest] at hshort
      omega
    | error e => rw [eq_invalid_of_round_eq_error hround]

/-- Whichever decimals stand for two opposite numbers, they are rounded alike. -/
theorem round_of_value_eq_neg {d' : Decimal} (h : d'.value = -d.value) : d'.round = d.round.map (-·) := by
  cases hround : d.round with
  | ok k =>
    obtain ⟨hnearest, hshort⟩ := round_eq_ok_iff.mp hround
    exact round_eq_ok_iff.mpr ⟨h ▸ hnearest.neg, by rwa [Int.natAbs_neg]⟩
  | error e =>
    obtain rfl := eq_invalid_of_round_eq_error hround
    obtain ⟨k, hnearest, hlong⟩ := round_eq_invalid_iff.mp hround
    exact round_eq_invalid_iff.mpr ⟨-k, h ▸ hnearest.neg, by rwa [Int.natAbs_neg]⟩

/--
One whole number is nearest to a decimal. It is the rounded value when it has at most 28 digits, and there is none when it has more. Rounding is odd, and it keeps the order of the decimals that it does not refuse.
-/
theorem round_exact (d : Decimal) :
    (∃! k, IsNearest k d.value) ∧
      (∀ k, d.round = .ok k ↔ IsNearest k d.value ∧ digitCount k.natAbs ≤ precision) ∧
      (d.round = .error .invalid ↔ ∃ k, IsNearest k d.value ∧ precision < digitCount k.natAbs) ∧
      (-d).round = d.round.map (-·) ∧
      ∀ (d' : Decimal) (k k' : Int), d.value ≤ d'.value → d.round = .ok k → d'.round = .ok k' → k ≤ k' := by
  obtain ⟨m, hnearest, -⟩ := exists_isNearest d
  refine ⟨⟨_, hnearest, fun k hk => hk.unique hnearest⟩, fun k => round_eq_ok_iff, round_eq_invalid_iff,
    round_of_value_eq_neg (value_neg d), fun d' k k' hle hk hk' => ?_⟩
  exact (isNearest_of_round hk).mono (isNearest_of_round hk') hle

/-- Half a unit decides at the bound: below it the number with 28 nines is nearest, from it on the one with 29 digits. -/
theorem round_exact_nines :
    let below : Decimal := ⟨false, 99999999999999999999999999994, -1⟩
    let half : Decimal := ⟨false, 99999999999999999999999999995, -1⟩
    let small : Decimal := ⟨true, 25, -1⟩
    small.value ≤ below.value ∧ small.round = .ok (-3) ∧ below.round = .ok 9999999999999999999999999999 ∧
      (-3 : Int) ≤ 9999999999999999999999999999 ∧ IsNearest 9999999999999999999999999999 below.value ∧
      (∃ k, IsNearest k half.value ∧ precision < digitCount k.natAbs) ∧ (-half).round = .error .invalid := by
  intro below half small
  have hle : small.value ≤ below.value := by
    norm_num [small, below, value, magnitude]
  have hsmall : small.round = .ok (-3) := by decide +kernel
  have hbelow : below.round = .ok 9999999999999999999999999999 := by decide +kernel
  have hhalf : half.round = .error .invalid := by decide +kernel
  obtain ⟨-, -, hinvalid, hneg, -⟩ := round_exact half
  refine ⟨hle, hsmall, hbelow, (round_exact small).2.2.2.2 below _ _ hle hsmall hbelow,
    (((round_exact below).2.1 _).mp hbelow).1, hinvalid.mp hhalf, ?_⟩
  rw [hneg, hhalf]
  rfl

end UiToolkit.Decimal
