import UiToolkit.Proofs.Numerals
import UiToolkit.Proofs.Words
import UiToolkit.Value

/-!
# Numeric values

A value that starts with a numeral and has no blank behind it is numeric, whatever the kinds that are tried first: none of their words begins with a character of a numeral. Its kind and unit say which numeral it is, with a point or without, and what follows it.
-/

namespace UiToolkit

open Text Value

namespace Numeral

/-- Digits, possibly with a sign in front. -/
def IsInteger (s : Text) : Prop :=
  ∃ sign digits, s = sign ++ digits ∧ sign ∈ [[], ['+'], ['-']] ∧ digits ≠ [] ∧ ∀ c ∈ digits, isDecimal c = true

/-- Digits with one point before, between or behind them, possibly with a sign in front. -/
def IsPointed (s : Text) : Prop :=
  ∃ sign whole fraction, s = sign ++ (whole ++ '.' :: fraction) ∧ sign ∈ [[], ['+'], ['-']] ∧
    whole ++ fraction ≠ [] ∧ ∀ c ∈ whole ++ fraction, isDecimal c = true

theorem point_notMem_sign {sign : Text} (h : sign ∈ [[], ['+'], ['-']]) : '.' ∉ sign := by
  revert sign
  decide

theorem isInteger_iff {s : Text} : IsInteger s ↔ IsNumeral s ∧ '.' ∉ s := by
  constructor
  · intro h
    obtain ⟨sign, digits, rfl, hsign, hne, hdigits⟩ := h
    have hunsigned : IsUnsigned digits :=
      ⟨digits, [], by rwa [List.append_nil], by rwa [List.append_nil], .inr ⟨rfl, rfl⟩⟩
    refine ⟨⟨sign, digits, rfl, hsign, hunsigned⟩, fun hpoint => ?_⟩
    rcases List.mem_append.mp hpoint with hpoint | hpoint
    · exact point_notMem_sign hsign hpoint
    · exact absurd (hdigits '.' hpoint) (by decide)
  · intro h
    obtain ⟨⟨sign, number, rfl, hsign, whole, fraction, hne, hdigits, hnumber⟩, hpoint⟩ := h
    rcases hnumber with rfl | ⟨rfl, rfl⟩
    · exact absurd (by simp) hpoint
    · rw [List.append_nil] at hne hdigits
      exact ⟨sign, number, rfl, hsign, hne, hdigits⟩

theorem isPointed_iff {s : Text} : IsPointed s ↔ IsNumeral s ∧ '.' ∈ s := by
  constructor
  · intro h
    obtain ⟨sign, whole, fraction, rfl, hsign, hne, hdigits⟩ := h
    exact ⟨⟨sign, _, rfl, hsign, whole, fraction, hne, hdigits, .inl rfl⟩, by simp⟩
  · intro h
    obtain ⟨⟨sign, number, rfl, hsign, whole, fraction, hne, hdigits, hnumber⟩, hpoint⟩ := h
    rcases hnumber with rfl | ⟨rfl, rfl⟩
    · exact ⟨sign, whole, fraction, rfl, hsign, hne, hdigits⟩
    · rw [List.append_nil] at hdigits
      rcases List.mem_append.mp hpoint with hpoint | hpoint
      · exact absurd hpoint (point_notMem_sign hsign)
      · exact absurd (hdigits '.' hpoint) (by decide)

end Numeral

namespace Value

open Numeral

def numericKinds : List ValueKind := [.integer, .number, .percentage, .length]

theorem splitNumber?_eq_some_iff {value number unit : Text} :
    splitNumber? value = some (number, unit) ↔
      IsLongest number value ∧ value = number ++ unit ∧ ∀ c ∈ unit, isBlank c = false := by
  have hany : unit.any isBlank = true ↔ ¬∀ c ∈ unit, isBlank c = false := by simp
  rw [← and_assoc, ← split?_eq_some_iff, splitNumber?]
  constructor
  · intro h
    obtain ⟨⟨number', unit'⟩, hsplit, h⟩ := Option.bind_eq_some_iff.mp h
    obtain ⟨hblank, h⟩ := Option.ite_none_left_eq_some.mp h
    cases h
    exact ⟨hsplit, not_not.mp (mt hany.mpr hblank)⟩
  · intro h
    obtain ⟨hsplit, hblank⟩ := h
    refine Option.bind_eq_some_iff.mpr ⟨(number, unit), hsplit, ?_⟩
    exact if_neg fun h => hany.mp h hblank

theorem splitNumber?_of_stop {number unit : Text} (h : IsNumeral number)
    (hunit : ∀ c ∈ unit.head?, isDecimal c = false ∧ c ≠ '.') (hblank : ∀ c ∈ unit, isBlank c = false) :
    splitNumber? (number ++ unit) = some (number, unit) :=
  splitNumber?_eq_some_iff.mpr ⟨isLongest_of_stop h hunit, rfl, hblank⟩

/-! ### Numeric values come through the earlier kinds -/

/-- The letters that the words of the kinds tried before the numeric ones begin with. -/
def wordLetters : List Char := ['v', 'r', 'u', '#', 'h', 't', 'f', '\'', '"']

theorem startsWithAny_eq_false {starts : List String} {s : Text}
    (hstarts : ∀ start ∈ starts, start.toList.head?.any wordLetters.contains = true)
    (hs : ∀ letter ∈ wordLetters, s.head? ≠ some letter) : startsWithAny starts s = false := by
  rw [startsWithAny, List.any_eq_false]
  intro start hstart
  obtain ⟨letter, hhead, hletter⟩ := (Option.any_eq_true _ _).mp (hstarts start hstart)
  rw [Bool.not_eq_true]
  apply isPrefixOf_eq_false
  · exact List.ne_nil_of_mem (List.mem_of_mem_head? hhead)
  · rw [hhead]
    exact hs letter (List.contains_iff_mem.mp hletter)

theorem head?_ne_of_isNumeralChar {c : Char} (hc : isNumeralChar c = true) (cs : Text) :
    ∀ letter ∈ wordLetters, (c :: cs).head? ≠ some letter ∧ (lower (c :: cs)).head? ≠ some letter := by
  have hsigma : (c == 'Σ') = false := beq_false_of_ne (by rintro rfl; cases hc)
  obtain ⟨d, ds, hform⟩ := List.exists_cons_of_ne_nil (lowerForm_ne_nil c)
  have hlower : (lower (c :: cs)).head? = some d := by
    rw [lower, lowerAfter, hsigma, if_neg Bool.false_ne_true, hform]
    rfl
  intro letter hletter
  have hplain : letter.toNat < 128 ∧ isNumeralChar letter = false ∧ letter ≠ 'i' ∧ letter ≠ 'k' := by
    revert letter
    decide
  obtain ⟨hascii, hnumeral, hi, hk⟩ := hplain
  rw [hlower, List.head?_cons]
  constructor
  · intro h
    rw [Option.some.inj h, hnumeral] at hc
    cases hc
  · intro h
    obtain rfl := Option.some.inj h
    rcases toLower_of_mem_lowerForm (hform ▸ List.mem_cons_self) hascii with ⟨hsmall, hcase⟩ | rfl | rfl
    · have hall := forall_ascii (p := fun e => !wordLetters.contains e.toLower || !isNumeralChar e) (by decide) hsmall
      rw [hcase, List.contains_iff_mem.mpr hletter, hc] at hall
      cases hall
    · exact hi rfl
    · exact hk rfl

theorem kindOf_of_splitNumber? {value number unit : Text} (h : splitNumber? value = some (number, unit)) :
    kindOf value = numericKind number unit := by
  obtain ⟨hlongest, hvalue, -⟩ := splitNumber?_eq_some_iff.mp h
  obtain ⟨c, cs, rfl⟩ := List.exists_cons_of_ne_nil hlongest.isNumeral.ne_nil
  have hc : isNumeralChar c = true := isNumeralChar_of_mem hlongest.isNumeral c List.mem_cons_self
  have hhead := head?_ne_of_isNumeralChar hc (cs ++ unit)
  rw [← List.cons_append, ← hvalue] at hhead
  have hplain := fun letter hletter => (hhead letter hletter).1
  have hlower := fun letter hletter => (hhead letter hletter).2
  have hword : ∀ word : Text, word.head?.any wordLetters.contains = true → (lower value == word) = false := by
    intro word hword
    obtain ⟨letter, hhead, hletter⟩ := (Option.any_eq_true _ _).mp hword
    exact beq_false_of_ne fun heq => hlower letter (List.contains_iff_mem.mp hletter) (heq ▸ hhead)
  unfold kindOf
  dsimp only
  rw [startsWithAny_eq_false (by decide) hlower, startsWithAny_eq_false (by decide) hlower,
    startsWithAny_eq_false (by decide) hlower, startsWithAny_eq_false (by decide) hlower,
    startsWithAny_eq_false (by decide) hplain, hword "true" (by decide), hword "false" (by decide), h]
  rfl

theorem kindOf_notMem_numericKinds {value : Text} (h : splitNumber? value = none) : (kindOf value).1 ∉ numericKinds := by
  unfold kindOf
  simp only [h]
  repeat' split
  all_goals decide

/-- A value has a numeric kind just when it is a numeral and a unit, which tell the kind. -/
theorem classify?_eq_numeric_iff {raw : Text} {kind : ValueKind} {unit : Option Text} (hkind : kind ∈ numericKinds) :
    classify? raw = some (kind, unit) ↔
      ∃ number rest, splitNumber? (trim raw) = some (number, rest) ∧ numericKind number rest = (kind, unit) := by
  rw [classify?]
  constructor
  · intro h
    obtain ⟨-, h⟩ := Option.ite_none_left_eq_some.mp h
    have hvalue : kindOf (trim raw) = (kind, unit) := Option.some.inj h
    cases hsplit : splitNumber? (trim raw) with
    | none =>
      have hnone := kindOf_notMem_numericKinds hsplit
      rw [hvalue] at hnone
      exact absurd hkind hnone
    | some split =>
      obtain ⟨number, rest⟩ := split
      exact ⟨number, rest, rfl, (kindOf_of_splitNumber? hsplit).symm.trans hvalue⟩
  · intro h
    obtain ⟨number, rest, hsplit, hnumeric⟩ := h
    have hne : (trim raw).isEmpty = false := by
      obtain ⟨hlongest, hvalue, -⟩ := splitNumber?_eq_some_iff.mp hsplit
      rw [List.isEmpty_eq_false_iff, hvalue, Ne, List.append_eq_nil_iff, not_and]
      exact fun hnil => absurd hnil hlongest.isNumeral.ne_nil
    rw [hne, if_neg Bool.false_ne_true, kindOf_of_splitNumber? hsplit, hnumeric]

/-! ### Each numeric kind -/

theorem numericKind_cases (number rest : Text) :
    (rest = [] ∧ '.' ∉ number ∧ numericKind number rest = (.integer, none)) ∨
      (rest = [] ∧ '.' ∈ number ∧ numericKind number rest = (.number, none)) ∨
      (rest = ['%'] ∧ numericKind number rest = (.percentage, some rest)) ∨
      (rest ≠ [] ∧ rest ≠ ['%'] ∧ numericKind number rest = (.length, some rest)) := by
  unfold numericKind
  rcases eq_or_ne rest [] with rfl | hne
  · by_cases hpoint : '.' ∈ number
    · simp [hpoint]
    · simp [hpoint]
  · rcases eq_or_ne rest ['%'] with rfl | hpercent
    · simp
    · simp [hne, hpercent]

theorem unit_of_numericKind {number rest : Text} {kind : ValueKind} {unit : Option Text}
    (h : numericKind number rest = (kind, unit)) : rest = unit.getD [] := by
  rcases numericKind_cases number rest with ⟨hrest, -, heq⟩ | ⟨hrest, -, heq⟩ | ⟨-, heq⟩ | ⟨-, -, heq⟩ <;>
    obtain ⟨-, rfl⟩ := Prod.mk.inj (heq.symm.trans h)
  · exact hrest
  · exact hrest
  · rfl
  · rfl

variable {raw : Text} {unit : Option Text}

theorem splitNumber?_nil_iff {value number : Text} :
    splitNumber? value = some (number, []) ↔ IsNumeral value ∧ number = value := by
  rw [splitNumber?_eq_some_iff, List.append_nil]
  constructor
  · intro h
    obtain ⟨hlongest, rfl, -⟩ := h
    exact ⟨hlongest.isNumeral, rfl⟩
  · intro h
    obtain ⟨hnumeral, rfl⟩ := h
    exact ⟨isLongest_self hnumeral, rfl, fun c hc => nomatch hc⟩

theorem classify?_eq_plain_iff {kind : ValueKind} (hkind : kind ∈ [.integer, .number]) :
    classify? raw = some (kind, unit) ↔ unit = none ∧ IsNumeral (trim raw) ∧ ('.' ∈ trim raw ↔ kind = .number) := by
  rw [classify?_eq_numeric_iff (by revert kind; decide)]
  constructor
  · intro h
    obtain ⟨number, rest, hsplit, hnumeric⟩ := h
    rcases numericKind_cases number rest with ⟨rfl, hpoint, heq⟩ | ⟨rfl, hpoint, heq⟩ | ⟨-, heq⟩ | ⟨-, -, heq⟩ <;>
      cases heq.symm.trans hnumeric
    · obtain ⟨hnumeral, rfl⟩ := splitNumber?_nil_iff.mp hsplit
      exact ⟨rfl, hnumeral, iff_of_false hpoint (by decide)⟩
    · obtain ⟨hnumeral, rfl⟩ := splitNumber?_nil_iff.mp hsplit
      exact ⟨rfl, hnumeral, iff_of_true hpoint rfl⟩
    · exact absurd hkind (by decide)
    · exact absurd hkind (by decide)
  · intro h
    obtain ⟨rfl, hnumeral, hpoint⟩ := h
    refine ⟨trim raw, [], splitNumber?_nil_iff.mpr ⟨hnumeral, rfl⟩, ?_⟩
    simp only [List.mem_cons, List.not_mem_nil, or_false] at hkind
    rcases hkind with rfl | rfl
    · simpa [numericKind] using hpoint
    · simpa [numericKind] using hpoint

theorem classify?_eq_integer_iff : classify? raw = some (.integer, unit) ↔ unit = none ∧ IsInteger (trim raw) := by
  rw [classify?_eq_plain_iff (by decide), isInteger_iff]
  simp

theorem classify?_eq_number_iff : classify? raw = some (.number, unit) ↔ unit = none ∧ IsPointed (trim raw) := by
  rw [classify?_eq_plain_iff (by decide), isPointed_iff]
  simp

theorem classify?_eq_percentage_iff :
    classify? raw = some (.percentage, unit) ↔ unit = some ['%'] ∧ ∃ numeral, IsNumeral numeral ∧ trim raw = numeral ++ ['%'] := by
  rw [classify?_eq_numeric_iff (by decide)]
  constructor
  · intro h
    obtain ⟨number, rest, hsplit, hkind⟩ := h
    rcases numericKind_cases number rest with ⟨-, -, heq⟩ | ⟨-, -, heq⟩ | ⟨rfl, heq⟩ | ⟨-, -, heq⟩ <;>
      cases heq.symm.trans hkind
    obtain ⟨hlongest, hvalue, -⟩ := splitNumber?_eq_some_iff.mp hsplit
    exact ⟨rfl, number, hlongest.isNumeral, hvalue⟩
  · intro h
    obtain ⟨rfl, numeral, hnumeral, hvalue⟩ := h
    have hstop : isDecimal '%' = false ∧ '%' ≠ '.' := by decide
    rw [hvalue]
    exact ⟨numeral, ['%'], splitNumber?_of_stop hnumeral (fun c hc => Option.some.inj hc ▸ hstop) (by decide), rfl⟩

theorem classify?_eq_length_iff :
    classify? raw = some (.length, unit) ↔
      ∃ numeral rest, unit = some rest ∧ IsLongest numeral (trim raw) ∧ trim raw = numeral ++ rest ∧
        rest ≠ [] ∧ rest ≠ ['%'] ∧ ∀ c ∈ rest, isBlank c = false := by
  rw [classify?_eq_numeric_iff (by decide)]
  constructor
  · intro h
    obtain ⟨number, rest, hsplit, hkind⟩ := h
    rcases numericKind_cases number rest with ⟨-, -, heq⟩ | ⟨-, -, heq⟩ | ⟨-, heq⟩ | ⟨hne, hpercent, heq⟩ <;>
      cases heq.symm.trans hkind
    obtain ⟨hlongest, hvalue, hblank⟩ := splitNumber?_eq_some_iff.mp hsplit
    exact ⟨number, rest, rfl, hlongest, hvalue, hne, hpercent, hblank⟩
  · intro h
    obtain ⟨numeral, rest, rfl, hlongest, hvalue, hne, hpercent, hblank⟩ := h
    refine ⟨numeral, rest, splitNumber?_eq_some_iff.mpr ⟨hlongest, hvalue, hblank⟩, ?_⟩
    simp [numericKind, hne, hpercent]

/--
The numeric kinds are told apart exactly, and a value of such a kind is split into its number and its unit. The number is read as the decimal that it spells, unless its digits are more than any decimal can have.
-/
theorem classify?_numeric (raw : Text) :
    (∀ unit, classify? raw = some (.integer, unit) ↔ unit = none ∧ IsInteger (trim raw)) ∧
      (∀ unit, classify? raw = some (.number, unit) ↔ unit = none ∧ IsPointed (trim raw)) ∧
      (∀ unit, classify? raw = some (.percentage, unit) ↔
        unit = some ['%'] ∧ ∃ numeral, IsNumeral numeral ∧ trim raw = numeral ++ ['%']) ∧
      (∀ unit, classify? raw = some (.length, unit) ↔
        ∃ numeral rest, unit = some rest ∧ IsLongest numeral (trim raw) ∧ trim raw = numeral ++ rest ∧
          rest ≠ [] ∧ rest ≠ ['%'] ∧ ∀ c ∈ rest, isBlank c = false) ∧
      ∀ kind ∈ numericKinds, ∀ unit, classify? raw = some (kind, unit) →
        ∃ numeral, splitNumber? (trim raw) = some (numeral, unit.getD []) ∧ trim raw = numeral ++ unit.getD [] ∧
          ((numeral.length : Int) ≤ Numeric.maxAdjusted →
            Numeric.ofText? numeral = some (.finite (Decimal.ofNumeral numeral))) := by
  refine ⟨fun _ => classify?_eq_integer_iff, fun _ => classify?_eq_number_iff, fun _ => classify?_eq_percentage_iff,
    fun _ => classify?_eq_length_iff, ?_⟩
  intro kind hkind unit h
  obtain ⟨numeral, rest, hsplit, hnumeric⟩ := (classify?_eq_numeric_iff hkind).mp h
  obtain ⟨hlongest, hvalue, -⟩ := splitNumber?_eq_some_iff.mp hsplit
  rw [unit_of_numericKind hnumeric] at hsplit hvalue
  exact ⟨numeral, hsplit, hvalue, ofText?_of_isNumeral hlongest.isNumeral⟩

/-- What stands behind the longest numeral is the unit of a length, whether or not it is of letters. -/
theorem classify?_numeric_lengths :
    classify? " -12.5PX ".toList = some (.length, some "PX".toList) ∧
      Numeric.ofText? "-12.5".toList = some (.finite ⟨true, 125, -1⟩) ∧
      ∃ numeral, IsLongest numeral "1.2.3".toList ∧ numeral ++ ".3".toList = "1.2.3".toList := by
  obtain ⟨-, -, -, -, hread⟩ := classify?_numeric " -12.5PX ".toList
  obtain ⟨-, -, -, hlength, -⟩ := classify?_numeric "1.2.3".toList
  have hpx : classify? " -12.5PX ".toList = some (.length, some "PX".toList) := by decide
  refine ⟨hpx, ?_, ?_⟩
  · obtain ⟨numeral, hsplit, hvalue, hdecimal⟩ := hread .length (by decide) _ hpx
    obtain rfl : numeral = "-12.5".toList := List.append_cancel_right (hvalue.symm.trans (by decide))
    exact hdecimal (by decide)
  · obtain ⟨numeral, rest, hunit, hlongest, hvalue, -⟩ := (hlength (some ".3".toList)).mp (by decide)
    obtain rfl := Option.some.inj hunit
    exact ⟨numeral, hlongest, hvalue.symm⟩

end Value

end UiToolkit
