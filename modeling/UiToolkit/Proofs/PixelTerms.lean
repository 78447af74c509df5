import UiToolkit.Proofs.NumericValues
import UiToolkit.Proofs.Overflow

/-!
# Terms in pixels and their kinds

A term has a value in pixels when it is a numeral with one of four units and nothing around them. The kinds of values say the same of it: it is an integer, a number, or a length with one of the three units that have letters.
-/

namespace UiToolkit.Pixels

open Numeral Text Value

/-- The units that are known in pixels, in lower case; the first of them is no unit. -/
def knownUnits : List Text := [[], "px", "em", "rem"]

theorem asciiLower_of_mem_knownUnits {unit : Text} : lower unit ∈ knownUnits ↔ asciiLower unit ∈ knownUnits := by
  have hplain : ∀ known ∈ knownUnits, ∀ c ∈ known, c.toNat < 128 ∧ c ≠ 'k' := by decide
  constructor
  · intro h
    rwa [(lower_eq_iff (hplain _ h)).mp rfl]
  · intro h
    rwa [(lower_eq_iff (hplain _ h)).mpr rfl]

theorem lower_eq_px_iff {unit : Text} : lower unit = "px".toList ↔ asciiLower unit = "px".toList :=
  lower_eq_iff (by decide)

/-- A known unit holds nothing that a numeral goes on with, and no blank. -/
theorem of_mem_knownUnits {unit : Text} (h : lower unit ∈ knownUnits) :
    ∀ c ∈ unit, isDecimal c = false ∧ c ≠ '.' ∧ isBlank c = false := by
  intro c hc
  have hletters : ∀ known ∈ knownUnits, ∀ letter ∈ known, letter ∈ "emprx".toList := by decide
  have hletter : c.toLower ∈ "emprx".toList :=
    hletters _ (asciiLower_of_mem_knownUnits.mp h) c.toLower (List.mem_map_of_mem hc)
  have hascii : c.toNat < 128 := toNat_lt_of_toLower rfl ((by decide : ∀ d ∈ "emprx".toList, d.toNat < 128) _ hletter)
  have hall := forall_ascii (p := fun d => !"emprx".toList.contains d.toLower || (!isDecimal d && d != '.' && !isBlank d))
    (by decide) hascii
  rw [List.contains_iff_mem.mpr hletter] at hall
  simpa [and_assoc] using hall

theorem isLength_iff {term : Text} :
    isLength term = true ↔ ∃ numeral unit, split? (trim term) = some (numeral, unit) ∧ lower unit ∈ knownUnits := by
  have hunit : ∀ unit, (isEmUnit unit || asciiLower unit == "px".toList || (asciiLower unit).isEmpty) = true ↔
      lower unit ∈ knownUnits := by
    intro unit
    rw [asciiLower_of_mem_knownUnits]
    simp only [isEmUnit, knownUnits, Bool.or_eq_true, beq_iff_eq, List.isEmpty_iff, List.mem_cons, List.not_mem_nil, or_false]
    tauto
  simp only [isLength, Option.any_eq_true, Prod.exists, hunit]

/-- A term in pixels, from its first character to its last, is a numeral and a known unit. -/
theorem isLength_iff_append {term : Text} :
    isLength term = true ↔ ∃ numeral unit, IsNumeral numeral ∧ lower unit ∈ knownUnits ∧ trim term = numeral ++ unit := by
  rw [isLength_iff]
  constructor
  · intro h
    obtain ⟨numeral, unit, hsplit, hunit⟩ := h
    obtain ⟨hlongest, hterm⟩ := split?_eq_some_iff.mp hsplit
    exact ⟨numeral, unit, hlongest.isNumeral, hunit, hterm⟩
  · intro h
    obtain ⟨numeral, unit, hnumeral, hunit, hterm⟩ := h
    refine ⟨numeral, unit, split?_eq_some_iff.mpr ⟨?_, hterm⟩, hunit⟩
    rw [hterm]
    apply isLongest_of_stop hnumeral
    intro c hc
    obtain ⟨hdecimal, hpoint, -⟩ := of_mem_knownUnits hunit c (List.mem_of_mem_head? hc)
    exact ⟨hdecimal, hpoint⟩

/-- The kind of a term is that of a number, or a length in one of the known units. -/
def IsPixelKind (kind : ValueKind) (unit : Option Text) : Prop :=
  kind = .integer ∨ kind = .number ∨
    kind = .length ∧ ∃ letters, unit = some letters ∧ lower letters ∈ ["px".toList, "em".toList, "rem".toList]

theorem mem_numericKinds_of_isPixelKind {kind : ValueKind} {unit : Option Text} (h : IsPixelKind kind unit) :
    kind ∈ numericKinds := by
  rcases h with rfl | rfl | ⟨rfl, -⟩ <;> decide

theorem lower_mem_knownUnits {raw : Text} {kind : ValueKind} {unit : Option Text} (hclassify : classify? raw = some (kind, unit))
    (h : IsPixelKind kind unit) : lower (unit.getD []) ∈ knownUnits := by
  have hplain : ∀ plain ∈ [ValueKind.integer, .number], kind = plain → unit = none := by
    intro plain hplain hkind
    exact ((classify?_eq_plain_iff hplain).mp (hkind ▸ hclassify)).1
  rcases h with hkind | hkind | ⟨-, letters, rfl, hletters⟩
  · rw [hplain .integer (by decide) hkind]
    decide
  · rw [hplain .number (by decide) hkind]
    decide
  · exact List.mem_cons_of_mem _ hletters

theorem splitNumber?_of_classify? {raw : Text} {kind : ValueKind} {unit : Option Text} (hkind : kind ∈ numericKinds)
    (h : classify? raw = some (kind, unit)) : ∃ numeral, splitNumber? (trim raw) = some (numeral, unit.getD []) := by
  obtain ⟨numeral, rest, hsplit, hnumeric⟩ := (classify?_eq_numeric_iff hkind).mp h
  exact ⟨numeral, by rw [hsplit, unit_of_numericKind hnumeric]⟩

theorem isLength_iff_classify? {term : Text} :
    isLength term = true ↔ ∃ kind unit, classify? term = some (kind, unit) ∧ IsPixelKind kind unit := by
  rw [isLength_iff]
  constructor
  · intro h
    obtain ⟨numeral, unit, hsplit, hunit⟩ := h
    obtain ⟨hlongest, hterm⟩ := split?_eq_some_iff.mp hsplit
    have hnumber : splitNumber? (trim term) = some (numeral, unit) :=
      splitNumber?_eq_some_iff.mpr ⟨hlongest, hterm, fun c hc => (of_mem_knownUnits hunit c hc).2.2⟩
    have hclassify : ∀ {kind unit'}, kind ∈ numericKinds → numericKind numeral unit = (kind, unit') →
        classify? term = some (kind, unit') :=
      fun hkind hnumeric => (classify?_eq_numeric_iff hkind).mpr ⟨numeral, unit, hnumber, hnumeric⟩
    rcases numericKind_cases numeral unit with ⟨-, -, heq⟩ | ⟨-, -, heq⟩ | ⟨rfl, -⟩ | ⟨hne, -, heq⟩
    · exact ⟨.integer, none, hclassify (by decide) heq, .inl rfl⟩
    · exact ⟨.number, none, hclassify (by decide) heq, .inr (.inl rfl)⟩
    · exact absurd hunit (by decide)
    · refine ⟨.length, some unit, hclassify (by decide) heq, .inr (.inr ⟨rfl, unit, rfl, ?_⟩)⟩
      exact (List.mem_cons.mp hunit).resolve_left fun hnil => hne (lowerAfter_eq_nil hnil)
  · intro h
    obtain ⟨kind, unit, hclassify, hkind⟩ := h
    obtain ⟨numeral, hsplit⟩ := splitNumber?_of_classify? (mem_numericKinds_of_isPixelKind hkind) hclassify
    obtain ⟨hlongest, hterm, -⟩ := splitNumber?_eq_some_iff.mp hsplit
    exact ⟨numeral, unit.getD [], split?_eq_some_iff.mpr ⟨hlongest, hterm⟩, lower_mem_knownUnits hclassify hkind⟩

theorem ofTerm?_of_split? {term numeral unit : Text} (hsplit : split? (trim term) = some (numeral, unit))
    (hunit : unit = [] ∨ asciiLower unit = "px".toList) : ofTerm? term = .ok (some (numeral ++ "px".toList)) := by
  have hlower : asciiLower unit = [] ∨ asciiLower unit = "px".toList := hunit.imp_left fun hnil => by rw [hnil]; rfl
  unfold ofTerm?
  simp only [hsplit]
  rcases hlower with h | h <;> rw [h] <;> rfl

/--
A term has a value in pixels just when its kind is an integer, a number, or a length in pixels or a relative unit. Without a unit and in pixels the value is the number of the term.
-/
theorem isSome_ofTerm?_iff_classify? {term : Text} {px : Option Text} (h : ofTerm? term = .ok px) :
    (px.isSome = true ↔ ∃ kind unit, classify? term = some (kind, unit) ∧ IsPixelKind kind unit) ∧
      ∀ kind unit, classify? term = some (kind, unit) → IsPixelKind kind unit →
        (∀ letters, unit = some letters → lower letters = "px".toList) →
        ∃ numeral, splitNumber? (trim term) = some (numeral, unit.getD []) ∧ px = some (numeral ++ "px".toList) := by
  refine ⟨by rw [isSome_ofTerm? h, isLength_iff_classify?], ?_⟩
  intro kind unit hclassify hkind hpx
  obtain ⟨numeral, hsplit⟩ := splitNumber?_of_classify? (mem_numericKinds_of_isPixelKind hkind) hclassify
  obtain ⟨hlongest, hterm, -⟩ := splitNumber?_eq_some_iff.mp hsplit
  refine ⟨numeral, hsplit, ?_⟩
  have hunit : unit.getD [] = [] ∨ asciiLower (unit.getD []) = "px".toList := by
    cases unit with
    | none => exact .inl rfl
    | some letters => exact .inr (lower_eq_px_iff.mp (hpx letters rfl))
  have hvalue := ofTerm?_of_split? (split?_eq_some_iff.mpr ⟨hlongest, hterm⟩) hunit
  exact Except.ok.inj (h.symm.trans hvalue)

theorem isSome_ofTerm?_iff_classify?_px :
    ofTerm? " +1.5PX ".toList = .ok (some "+1.5px".toList) ∧
      (∃ numeral, splitNumber? "+1.5PX".toList = some (numeral, "PX".toList) ∧ numeral ++ "px".toList = "+1.5px".toList) ∧
      ofTerm? "50%".toList = .ok none ∧
      ¬∃ kind unit, classify? "50%".toList = some (kind, unit) ∧ IsPixelKind kind unit := by
  have hpx : ofTerm? " +1.5PX ".toList = .ok (some "+1.5px".toList) := by decide
  have hpercent : ofTerm? "50%".toList = .ok none := by decide
  refine ⟨hpx, ?_, hpercent, ?_⟩
  · have hclassify : classify? " +1.5PX ".toList = some (.length, some "PX".toList) := by decide
    obtain ⟨numeral, hsplit, hvalue⟩ := (isSome_ofTerm?_iff_classify? hpx).2 .length (some "PX".toList) hclassify
      (.inr (.inr ⟨rfl, _, rfl, by decide⟩)) (by decide)
    exact ⟨numeral, hsplit, (Option.some.inj hvalue).symm⟩
  · rw [← (isSome_ofTerm?_iff_classify? hpercent).1]
    decide

end UiToolkit.Pixels
