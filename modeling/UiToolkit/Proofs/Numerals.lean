import UiToolkit.Decimal.Numeric
import UiToolkit.Proofs.Rounding
import UiToolkit.Proofs.TranslatedValues

/-!
# Numerals

The reader of numerals takes the longest one that a text starts with. Numeric text is a wider notation, and a numeral is read there as the decimal that it spells, digit for digit and whatever script its digits are of.
-/

namespace UiToolkit

open Text Value

namespace Numeral

/-- Digits with at most one point among them, possibly with a sign in front. -/
def IsNumeral (s : Text) : Prop :=
  ∃ sign number, s = sign ++ number ∧ sign ∈ [[], ['+'], ['-']] ∧ IsUnsigned number

/-- The longest numeral that a text starts with. -/
structure IsLongest (numeral s : Text) : Prop where
  isNumeral : IsNumeral numeral
  starts : numeral <+: s
  longest : ∀ other, IsNumeral other → other <+: s → other.length ≤ numeral.length

theorem IsLongest.unique {first second s : Text} (h : IsLongest first s) (h' : IsLongest second s) : first = second := by
  have hle := h'.longest first h.isNumeral h.starts
  have hge := h.longest second h'.isNumeral h'.starts
  exact (List.prefix_of_prefix_length_le h.starts h'.starts hle).eq_of_length_le hge

/-! ### The longest numeral is read -/

theorem digitExtent_append_of_digits {digits : Text} (hdigits : ∀ c ∈ digits, isDecimal c = true) (t : Text) :
    digitExtent (digits ++ t) = digits.length + digitExtent t := by
  rw [digitExtent, List.takeWhile_append_of_pos hdigits, List.length_append, digitExtent]

/-- A number that a text starts with is read, perhaps with more behind it. -/
theorem exists_unsignedExtent?_of_starts {number s : Text} (h : IsUnsigned number) (hstarts : number <+: s) :
    ∃ n, unsignedExtent? s = some n ∧ number.length ≤ n := by
  obtain ⟨whole, fraction, hne, hdigits, hnumber⟩ := h
  obtain ⟨hwhole, hfraction⟩ := List.forall_mem_append.mp hdigits
  obtain ⟨after, rfl⟩ := hstarts
  rcases hnumber with rfl | ⟨rfl, rfl⟩
  · have hpoint : digitExtent (whole ++ '.' :: (fraction ++ after)) = whole.length :=
      digitExtent_append_of_digits hwhole _
    have hmore := digitExtent_append_of_digits hfraction after
    have hsome : ¬(whole.length = 0 ∧ digitExtent (fraction ++ after) = 0) := by
      intro hnone
      apply hne
      rw [List.append_eq_nil_iff, ← List.length_eq_zero_iff, ← List.length_eq_zero_iff]
      omega
    refine ⟨whole.length + 1 + digitExtent (fraction ++ after), ?_, ?_⟩
    · rw [List.append_assoc, List.cons_append, unsignedExtent?, hpoint, List.drop_left]
      exact if_neg hsome
    · rw [List.length_append, List.length_cons]
      omega
  · rw [List.append_nil] at hne
    have hpos := List.length_pos_of_ne_nil hne
    have hextent := digitExtent_append_of_digits hwhole after
    unfold unsignedExtent?
    dsimp only
    split
    · rw [if_neg (by omega)]
      exact ⟨_, rfl, by omega⟩
    · rw [if_neg (by omega)]
      exact ⟨_, rfl, by omega⟩

theorem exists_extent?_of_starts {numeral s : Text} (h : IsNumeral numeral) (hstarts : numeral <+: s) :
    ∃ n, extent? s = some n ∧ numeral.length ≤ n := by
  obtain ⟨sign, number, rfl, hsign, hnumber⟩ := h
  obtain ⟨after, rfl⟩ := hstarts
  obtain ⟨n, hn, hle⟩ := exists_unsignedExtent?_of_starts hnumber (List.prefix_append number after)
  have hsigned : ∀ c, isSign c = true → ∃ n, extent? (c :: (number ++ after)) = some n ∧ number.length + 1 ≤ n := by
    intro c hc
    refine ⟨n + 1, ?_, by omega⟩
    rw [extent?, if_pos hc, hn]
    rfl
  simp only [List.mem_cons, List.not_mem_nil, or_false] at hsign
  rcases hsign with rfl | rfl | rfl
  · obtain ⟨c, cs, rfl⟩ := List.exists_cons_of_ne_nil (ne_nil_of_isUnsigned hnumber)
    have hc : isSign c = false := not_isSign_of_isUnsigned hnumber c List.mem_cons_self
    refine ⟨n, ?_, hle⟩
    rw [List.nil_append, List.cons_append, extent?, hc, if_neg Bool.false_ne_true]
    exact hn
  · exact hsigned '+' rfl
  · exact hsigned '-' rfl

/-- What is read is the longest numeral that the text starts with, and the text behind it. -/
theorem split?_eq_some_iff {s numeral rest : Text} :
    split? s = some (numeral, rest) ↔ IsLongest numeral s ∧ s = numeral ++ rest := by
  have hread : ∀ {n}, extent? s = some n → IsLongest (s.take n) s := by
    intro n hn
    obtain ⟨sign, number, after, hsplit, hlength, hsign, hnumber⟩ := exists_of_extent? hn
    refine ⟨⟨sign, number, ?_, hsign, hnumber⟩, List.take_prefix n s, fun other hother hstarts => ?_⟩
    · rw [hsplit, ← List.append_assoc, ← hlength, List.take_left]
    · obtain ⟨m, hm, hle⟩ := exists_extent?_of_starts hother hstarts
      obtain rfl : n = m := Option.some.inj (hn.symm.trans hm)
      rw [List.length_take]
      exact le_min hle hstarts.length_le
  rw [split?, Option.map_eq_some_iff]
  constructor
  · intro h
    obtain ⟨n, hn, heq⟩ := h
    cases heq
    exact ⟨hread hn, (List.take_append_drop n s).symm⟩
  · intro h
    obtain ⟨hlongest, hsplit⟩ := h
    obtain ⟨n, hn, -⟩ := exists_extent?_of_starts hlongest.isNumeral hlongest.starts
    have hnumeral := (hread hn).unique hlongest
    refine ⟨n, hn, Prod.ext hnumeral ?_⟩
    apply (List.append_right_inj numeral).mp
    rw [← hsplit, ← hnumeral, List.take_append_drop]

theorem isLongest_of_stop {numeral after : Text} (h : IsNumeral numeral)
    (hafter : ∀ c ∈ after.head?, isDecimal c = false ∧ c ≠ '.') : IsLongest numeral (numeral ++ after) := by
  obtain ⟨sign, number, rfl, hsign, hnumber⟩ := h
  have hextent := extent?_of_isUnsigned hsign hnumber hafter
  rw [← List.append_assoc] at hextent
  have hsplit : split? (sign ++ number ++ after) = some (sign ++ number, after) := by
    rw [split?, hextent, Option.map_some, List.take_left, List.drop_left]
  exact (split?_eq_some_iff.mp hsplit).1

theorem isLongest_self {numeral : Text} (h : IsNumeral numeral) : IsLongest numeral numeral := by
  have hself := @isLongest_of_stop numeral [] h fun c hc => nomatch hc
  rwa [List.append_nil] at hself

theorem isNumeralChar_of_mem {numeral : Text} (h : IsNumeral numeral) : ∀ c ∈ numeral, isNumeralChar c = true := by
  obtain ⟨n, hn, hle⟩ := exists_extent?_of_starts h (List.prefix_refl numeral)
  intro c hc
  apply isNumeralChar_of_mem_take hn
  rwa [List.take_of_length_le hle]

theorem IsNumeral.ne_nil {numeral : Text} (h : IsNumeral numeral) : numeral ≠ [] := by
  obtain ⟨sign, number, rfl, -, hnumber⟩ := h
  exact fun hnil => ne_nil_of_isUnsigned hnumber (List.append_eq_nil_iff.mp hnil).2

theorem IsNumeral.not_isBlank {numeral : Text} (h : IsNumeral numeral) : ∀ c ∈ numeral, isBlank c = false := by
  intro c hc
  refine Bool.eq_false_iff.mpr fun hblank => ?_
  have hnone := forall_blank (p := fun d => !isNumeralChar d) (by decide) hblank
  rw [isNumeralChar_of_mem h c hc] at hnone
  cases hnone

/-! ### Digits of any script -/

theorem decimalValue?_lt {c : Char} {d : Nat} (h : decimalValue? c = some d) : d < 10 := by
  unfold decimalValue? at h
  dsimp only at h
  split at h
  · rename_i hc
    simp only [Bool.and_eq_true, decide_eq_true_eq, Option.some.injEq] at hc h
    omega
  · split at h
    · cases h
    · obtain ⟨range, -, rfl⟩ := Option.map_eq_some_iff.mp h
      exact Nat.mod_lt _ (by decide)

/-- A digit of any script as an ASCII digit, and any other character as it is. -/
def asciiDigit (c : Char) : Char := ((decimalValue? c).map fun d => Char.ofNat (48 + d)).getD c

theorem asciiDigit_cases (c : Char) :
    (isDecimal c = true ∧ (asciiDigit c).isDigit = true ∨ isDecimal c = false ∧ asciiDigit c = c) ∧
      decimalValue? (asciiDigit c) = decimalValue? c := by
  have hdigits : ∀ d < 10, (Char.ofNat (48 + d)).isDigit = true ∧ decimalValue? (Char.ofNat (48 + d)) = some d := by
    decide
  cases hvalue : decimalValue? c with
  | none =>
    have hsame : asciiDigit c = c := by rw [asciiDigit, hvalue, Option.map_none, Option.getD_none]
    exact ⟨.inr ⟨by rw [isDecimal, hvalue, Option.isSome_none], hsame⟩, by rw [hsame, hvalue]⟩
  | some d =>
    have hdigit : asciiDigit c = Char.ofNat (48 + d) := by rw [asciiDigit, hvalue, Option.map_some, Option.getD_some]
    obtain ⟨hisDigit, hread⟩ := hdigits d (decimalValue?_lt hvalue)
    exact ⟨.inl ⟨by rw [isDecimal, hvalue, Option.isSome_some], hdigit ▸ hisDigit⟩, hdigit ▸ hread⟩

theorem isDecimal_asciiDigit (c : Char) : isDecimal (asciiDigit c) = isDecimal c := by
  rw [isDecimal, (asciiDigit_cases c).2, isDecimal]

theorem asciiDigit_eq_point_iff {c : Char} : asciiDigit c = '.' ↔ c = '.' := by
  rcases (asciiDigit_cases c).1 with ⟨hdecimal, hdigit⟩ | ⟨-, hsame⟩
  · constructor
    · intro h
      rw [h] at hdigit
      cases hdigit
    · intro h
      rw [h] at hdecimal
      cases hdecimal
  · rw [hsame]

theorem isUnsigned_map_asciiDigit {number : Text} (h : IsUnsigned number) : IsUnsigned (number.map asciiDigit) := by
  obtain ⟨whole, fraction, hne, hdigits, hnumber⟩ := h
  refine ⟨whole.map asciiDigit, fraction.map asciiDigit, ?_, ?_, ?_⟩
  · rwa [← List.map_append, Ne, List.map_eq_nil_iff]
  · intro c hc
    rw [← List.map_append] at hc
    obtain ⟨d, hd, rfl⟩ := List.mem_map.mp hc
    rw [isDecimal_asciiDigit]
    exact hdigits d hd
  · rcases hnumber with rfl | ⟨rfl, rfl⟩
    · left
      rw [List.map_append, List.map_cons, asciiDigit_eq_point_iff.mpr rfl]
    · exact .inr ⟨rfl, rfl⟩

theorem digitsValue_map_asciiDigit (s : Text) : digitsValue (s.map asciiDigit) = digitsValue s := by
  have hvalue : decimalValue? ∘ asciiDigit = decimalValue? := funext fun c => (asciiDigit_cases c).2
  rw [digitsValue, List.filterMap_map, hvalue, digitsValue]

theorem digitsValue_lt (s : Text) : digitsValue s < 10 ^ s.length := by
  have hfold : ∀ (ds : List Nat) (n : Nat), (∀ d ∈ ds, d < 10) →
      ds.foldl (fun n d => 10 * n + d) n < (n + 1) * 10 ^ ds.length := by
    intro ds
    induction ds with
    | nil =>
      intro n _
      show n < (n + 1) * 1
      omega
    | cons d ds ih =>
      intro n hds
      obtain ⟨hd, hds⟩ := List.forall_mem_cons.mp hds
      calc ds.foldl (fun n d => 10 * n + d) (10 * n + d)
          < (10 * n + d + 1) * 10 ^ ds.length := ih _ hds
        _ ≤ ((n + 1) * 10) * 10 ^ ds.length := Nat.mul_le_mul_right _ (by omega)
        _ = (n + 1) * 10 ^ (d :: ds).length := by rw [List.length_cons, Nat.pow_succ']; ring
  have hlt := hfold (s.filterMap decimalValue?) 0 fun d hd => by
    obtain ⟨c, -, hc⟩ := List.mem_filterMap.mp hd
    exact decimalValue?_lt hc
  rw [Nat.zero_add, Nat.one_mul] at hlt
  exact lt_of_lt_of_le hlt (Nat.pow_le_pow_right (by decide) (List.length_filterMap_le _ _))

/-! ### Numerals as numeric text -/

theorem ofNumeral_signed {sign : Text} (hsign : sign ∈ [[], ['+'], ['-']]) {number : Text} (h : IsUnsigned number) :
    Decimal.ofNumeral (sign ++ number) =
      ⟨sign == ['-'], digitsValue number, (Decimal.ofNumeral number).exponent⟩ := by
  simp only [List.mem_cons, List.not_mem_nil, or_false] at hsign
  rcases hsign with rfl | rfl | rfl
  · obtain ⟨c, cs, rfl⟩ := List.exists_cons_of_ne_nil (ne_nil_of_isUnsigned h)
    have hc : c ≠ '-' := by
      rintro rfl
      cases not_isSign_of_isUnsigned h '-' List.mem_cons_self
    rw [List.nil_append, Decimal.ofNumeral, List.head?_cons]
    simp [hc]
  · rfl
  · rfl

theorem exponent_ofNumeral_map_asciiDigit (s : Text) :
    (Decimal.ofNumeral (s.map asciiDigit)).exponent = (Decimal.ofNumeral s).exponent := by
  have hpoint : (fun c => decide (c ≠ '.')) ∘ asciiDigit = fun c => decide (c ≠ '.') :=
    funext fun c => decide_eq_decide.mpr (not_congr asciiDigit_eq_point_iff)
  simp only [Decimal.ofNumeral]
  rw [List.dropWhile_map, hpoint, ← List.map_drop, List.length_map]

theorem asciiForm?_of_isNumeral {numeral : Text} (h : IsNumeral numeral) :
    Numeric.asciiForm? numeral = some (numeral.map asciiDigit) := by
  have hread : ∀ s : Text, (∀ c ∈ s, isNumeralChar c = true) → Numeric.asciiForm? s = some (s.map asciiDigit) := by
    intro s hs
    unfold Numeric.asciiForm?
    induction s with
    | nil => rfl
    | cons c s ih =>
      obtain ⟨hc, hs⟩ := List.forall_mem_cons.mp hs
      have hunderscore : c ≠ '_' := by
        rintro rfl
        cases hc
      rw [List.filter_cons_of_pos (by simpa using hunderscore), List.mapM_cons, ih hs]
      cases hvalue : decimalValue? c with
      | some d => simp [asciiDigit, hvalue]
      | none =>
        have hascii : c.toNat < 128 := by
          rw [isNumeralChar, isSign, isDecimal, hvalue] at hc
          simp only [Option.isSome_none, Bool.or_false, Bool.or_eq_true, beq_iff_eq] at hc
          rcases hc with (rfl | rfl) | rfl <;> decide
        simp [asciiDigit, hvalue, hascii]
  exact hread numeral (isNumeralChar_of_mem h)

theorem finite?_of_isUnsigned {number : Text} (h : IsUnsigned number) (hascii : ∀ c ∈ number, c.isDigit = true ∨ c = '.')
    (hsize : (number.length : Int) ≤ Numeric.maxAdjusted) (negative : Bool) :
    Numeric.finite? negative number = some ⟨negative, digitsValue number, (Decimal.ofNumeral number).exponent⟩ := by
  have hplain : ∀ c ∈ number, (!Numeric.isExponentMark c) = true := by
    intro c hc
    rcases hascii c hc with hdigit | rfl
    · have hall := forall_ascii (p := fun d => !d.isDigit || !Numeric.isExponentMark d) (by decide)
        (toNat_lt_of_isDigit hdigit)
      rwa [hdigit] at hall
    · rfl
  have hmantissa : number.takeWhile (!Numeric.isExponentMark ·) = number := List.takeWhile_eq_self_iff.mpr hplain
  have hrest : number.dropWhile (!Numeric.isExponentMark ·) = [] := List.dropWhile_eq_nil_iff.mpr hplain
  have hextent : unsignedExtent? number = some number.length := by
    have hextent := @unsignedExtent?_of_isUnsigned number [] h fun c hc => nomatch hc
    rwa [List.append_nil] at hextent
  have hwhole : (Decimal.ofNumeral number).coefficient = digitsValue number := rfl
  obtain ⟨fraction, hfraction, hshort⟩ :
      ∃ fraction : Nat, (Decimal.ofNumeral number).exponent = -(fraction : Int) ∧ fraction ≤ number.length := by
    refine ⟨((number.dropWhile (· ≠ '.')).drop 1).length, rfl, ?_⟩
    exact (List.drop_sublist _ _).length_le.trans (List.dropWhile_sublist _).length_le
  have hcount : Decimal.digitCount (digitsValue number) ≤ number.length := by
    obtain ⟨k, hk⟩ := Nat.exists_eq_add_of_le' (List.length_pos_of_ne_nil (ne_nil_of_isUnsigned h))
    rw [hk]
    exact Decimal.digitCount_le_iff.mpr (hk ▸ digitsValue_lt number)
  have hrange : (decide (Numeric.maxAdjusted < -(fraction : Int) + 0 + ((Decimal.digitCount (digitsValue number) : Int) - 1))
      || decide (-(fraction : Int) + 0 < Numeric.minExponent)) = false := by
    apply Bool.or_eq_false_iff.mpr
    constructor <;> apply decide_eq_false
    · omega
    · rw [Numeric.minExponent]
      rw [Numeric.maxAdjusted] at hsize
      omega
  unfold Numeric.finite?
  simp only [hmantissa, hrest, hextent, hwhole, hfraction, ne_eq, not_true, if_false, Option.bind_eq_bind, Option.bind_some,
    hrange, Bool.false_eq_true]
  simp

/-- A text that begins with none of the words for infinity and the like is a finite number or none. -/
theorem unsigned?_cons {c : Char} (hc : c.toLower ∉ "ins".toList) (cs : Text) (negative : Bool) :
    Numeric.unsigned? negative (c :: cs) = (Numeric.finite? negative (c :: cs)).map .finite := by
  have hword : ∀ word : Text, word.head?.any "ins".toList.contains = true →
      word.isPrefixOf (asciiLower (c :: cs)) = false ∧ (asciiLower (c :: cs) == word) = false := by
    intro word hword
    obtain ⟨letter, hfirst, hletter⟩ := (Option.any_eq_true _ _).mp hword
    have hhead : (asciiLower (c :: cs)).head? ≠ word.head? :=
      fun heq => hc (Option.some.inj (heq.trans hfirst) ▸ List.contains_iff_mem.mp hletter)
    constructor
    · apply isPrefixOf_eq_false ?_ hhead
      exact List.ne_nil_of_mem (List.mem_of_mem_head? hfirst)
    · exact beq_false_of_ne fun heq => hhead (congrArg List.head? heq)
  unfold Numeric.unsigned?
  dsimp only
  rw [(hword "inf" (by decide)).2, (hword "infinity" (by decide)).2, (hword "nan" (by decide)).1, (hword "snan" (by decide)).1]
  rfl

theorem ofText?_of_isNumeral {numeral : Text} (h : IsNumeral numeral)
    (hsize : (numeral.length : Int) ≤ Numeric.maxAdjusted) :
    Numeric.ofText? numeral = some (.finite (Decimal.ofNumeral numeral)) := by
  have htrim : trim numeral = numeral := trim_eq_self_of_all h.not_isBlank
  have hform := asciiForm?_of_isNumeral h
  obtain ⟨sign, number, rfl, hsign, hnumber⟩ := h
  have hascii : ∀ c ∈ number.map asciiDigit, c.isDigit = true ∨ c = '.' := by
    intro c hc
    obtain ⟨d, hd, rfl⟩ := List.mem_map.mp hc
    rcases (asciiDigit_cases d).1 with ⟨-, hdigit⟩ | ⟨hdecimal, hsame⟩
    · exact .inl hdigit
    · refine .inr (asciiDigit_eq_point_iff.mpr ?_)
      exact (isNumberChar_of_mem hnumber d hd).resolve_left (by rw [hdecimal]; exact Bool.false_ne_true)
  have hmapped := isUnsigned_map_asciiDigit hnumber
  have hshort : ((number.map asciiDigit).length : Int) ≤ Numeric.maxAdjusted := by
    rw [List.length_append] at hsize
    rw [List.length_map]
    omega
  obtain ⟨c, cs, hcons⟩ := List.exists_cons_of_ne_nil (ne_nil_of_isUnsigned hmapped)
  have hc : c.toLower ∉ "ins".toList := by
    rcases hascii c (hcons ▸ List.mem_cons_self) with hdigit | rfl
    · have hall := forall_ascii (p := fun d => !d.isDigit || !"ins".toList.contains d.toLower) (by decide)
        (toNat_lt_of_isDigit hdigit)
      rw [hdigit] at hall
      simpa using hall
    · decide
  have hread : ∀ negative, Numeric.unsigned? negative (number.map asciiDigit) =
      some (.finite ⟨negative, digitsValue number, (Decimal.ofNumeral number).exponent⟩) := by
    intro negative
    rw [hcons, unsigned?_cons hc, ← hcons, finite?_of_isUnsigned hmapped hascii hshort, digitsValue_map_asciiDigit,
      exponent_ofNumeral_map_asciiDigit]
    rfl
  rw [ofNumeral_signed hsign hnumber, Numeric.ofText?, htrim, hform, List.map_append, Option.bind_eq_bind, Option.bind_some]
  simp only [List.mem_cons, List.not_mem_nil, or_false] at hsign
  rcases hsign with rfl | rfl | rfl
  · have hfirst := not_isSign_of_isUnsigned hmapped c (hcons ▸ List.mem_cons_self)
    rw [List.map_nil, List.nil_append]
    rw [hcons] at hread ⊢
    split
    · rename_i heq
      rw [(List.cons.inj heq).1] at hfirst
      cases hfirst
    · rename_i heq
      rw [(List.cons.inj heq).1] at hfirst
      cases hfirst
    · exact hread false
  · exact hread false
  · exact hread true

end Numeral

end UiToolkit
