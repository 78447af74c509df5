import UiToolkit.Text.Case

/-!
# Characters

What holds of the 128 characters of ASCII is checked one by one, and the other characters are no digits, have no lower case among the former, and stand in none of the small classes.
-/

namespace UiToolkit.Text

/-- What holds of every character of ASCII holds of every character with a small number. -/
theorem forall_ascii {p : Char → Bool} (h : ((List.range 128).all fun n => p (Char.ofNat n)) = true) {c : Char}
    (hc : c.toNat < 128) : p c = true := by
  rw [← Char.ofNat_toNat c]
  exact List.all_eq_true.mp h _ (List.mem_range.mpr hc)

theorem toNat_lt_of_isDigit {c : Char} (hc : c.isDigit = true) : c.toNat < 128 := by
  simp only [Char.isDigit, Bool.and_eq_true, decide_eq_true_eq] at hc
  have hle : c.toNat ≤ 57 := hc.2
  omega

theorem toLower_of_le {c : Char} (hc : 128 ≤ c.toNat) : c.toLower = c := by
  unfold Char.toLower
  rw [dif_neg]
  rintro ⟨-, hle⟩
  have hle : c.toNat ≤ 90 := hle
  omega

theorem toNat_lt_of_toLower {c d : Char} (h : c.toLower = d) (hd : d.toNat < 128) : c.toNat < 128 := by
  refine Nat.lt_of_not_le fun hc => ?_
  rw [toLower_of_le hc] at h
  exact absurd (h ▸ hd) (Nat.not_lt.mpr hc)

theorem isDigit_of_mem_ofNat {n : Nat} {c : Char} (h : c ∈ ofNat n) : c.isDigit = true :=
  Nat.isDigit_of_mem_toDigits (by omega) (by omega) h

theorem mem_ofInt {i : Int} {c : Char} (h : c ∈ ofInt i) : c.isDigit = true ∨ c = '-' := by
  cases i with
  | ofNat n => exact .inl (isDigit_of_mem_ofNat h)
  | negSucc n =>
    rcases List.mem_cons.mp h with rfl | h
    · exact .inr rfl
    · exact .inl (isDigit_of_mem_ofNat h)

/-- Lower case keeps every character of ASCII that is no capital. -/
theorem mem_lowerAfter {c : Char} (hlower : c.toLower = c) (hascii : c.toNat < 128) {afterCased : Bool} {s : Text}
    (h : c ∈ s) : c ∈ lowerAfter afterCased s := by
  have hsigma : c ≠ 'Σ' := by
    rintro rfl
    exact absurd hascii (by decide)
  induction s generalizing afterCased with
  | nil => cases h
  | cons d s ih =>
    rw [lowerAfter]
    rcases List.mem_cons.mp h with rfl | h
    · refine List.mem_append_left _ ?_
      rw [if_neg (by simpa using hsigma), lowerForm]
      simp only [hascii, if_true, hlower, List.mem_singleton]
    · exact List.mem_append_right _ (ih h)

end UiToolkit.Text
