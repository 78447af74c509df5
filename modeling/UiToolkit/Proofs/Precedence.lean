import UiToolkit.Proofs.Emission

/-!
# Which of several values for a property is written

The lines of a rule are put into one table in the order of its declarations, so the last value given to a property is the one that is written. An explicit declaration has no precedence over a substitute: a declaration of a property that USS lacks, put after it, takes its place.
-/

namespace UiToolkit

namespace Converter

open Attempt Text

/-- The declaration names the property itself, and its value has a translation that is written. -/
def Writes (c : Converter) (d : Declaration) (property value : Text) : Prop :=
  d.isCustom = false ∧ renamed d.property = property ∧ c.translate property d.text = .ok value ∧
    isBlankText value = false

/-- The declaration gives a value to a property that it does not name: as a substitute, or to the second name of a font. -/
def GivesTo (c : Converter) (d : Declaration) (property value : Text) : Prop :=
  d.isCustom = false ∧ renamed d.property ≠ property ∧
    ((c.policy.isNative (renamed d.property) = false ∧
        ∃ pairs, c.substitutes (renamed d.property) d.text = .ok pairs ∧ (property, value) ∈ pairs) ∨
      (renamed d.property = "-unity-font".toList ∧ property = "-unity-font-definition".toList ∧
        c.translate "-unity-font" d.text = .ok value))

theorem last?_emitted_of_writes {c : Converter} {d : Declaration} {property value : Text}
    (hnative : c.policy.isNative property = true) (hwrites : c.Writes d property value) :
    Entries.last? property (c.emitted d) = some value := by
  obtain ⟨hcustom, rfl, htranslate, hblank⟩ := hwrites
  have hhandle : c.handle d = .ok (.emitted (nativePairs (renamed d.property) value)) := by
    rw [handle_native c hcustom hnative, htranslate]
    rfl
  rw [emitted_of_handle hhandle, Handling.pairs, nativePairs, hblank, if_neg Bool.false_ne_true]
  split
  · rename_i hfont
    have hne : "-unity-font".toList ≠ "-unity-font-definition".toList := by decide
    rw [beq_iff_eq.mp hfont, Entries.last?_cons, Entries.last?_cons, Entries.last?_nil, if_pos rfl, if_neg hne]
    rfl
  · rw [Entries.last?_cons, Entries.last?_nil, if_pos rfl]
    rfl

/-- A line of a native property is written by a declaration of it, or given to it by a declaration of another property. -/
theorem writes_or_givesTo_of_mem_emitted (config : Config) {d : Declaration} {property value : Text}
    (hnative : Policy.bundled.isNative property = true) (hmem : (property, value) ∈ (bundled config).emitted d) :
    (bundled config).Writes d property value ∨ (bundled config).GivesTo d property value := by
  rcases mem_emitted hmem with ⟨hcustom, rfl, -⟩ | ⟨hcustom, -, htranslate, hblank, rfl | ⟨hfont, rfl⟩⟩ |
      ⟨hcustom, -, hother, pairs, hpairs, hmem⟩
  · rw [Declaration.isCustom, Policy.isPrefixOf_hyphens_of_isNative hnative] at hcustom
    cases hcustom
  · exact .inl ⟨hcustom, rfl, htranslate, hblank⟩
  · refine .inr ⟨hcustom, ?_, .inr ⟨hfont, rfl, hfont ▸ htranslate⟩⟩
    rw [hfont]
    decide
  · refine .inr ⟨hcustom, ?_, .inl ⟨hother, pairs, hpairs, hmem⟩⟩
    rintro rfl
    exact Bool.false_ne_true (hother.symm.trans hnative)

/-- The last declaration that gives a property a value decides, be it explicit or not; from the last explicit one on, only substitutes and fonts can do so. -/
theorem last_given_value_written (config : Config) {r : Rule} {header : List Text} {pairs : Entries Text}
    (hkeeps : (bundled config).Keeps r header pairs) {property value : Text} {before after : List Declaration}
    {d : Declaration} (hnative : Policy.bundled.isNative property = true)
    (hsplit : r.declarations = before ++ d :: after) (hwrites : (bundled config).Writes d property value)
    (hlast : ∀ e ∈ after, ∀ w, ¬(bundled config).Writes e property w) :
    pairs.get? property = some ((Entries.last? property (after.flatMap (bundled config).emitted)).getD value) ∧
      ((∀ e ∈ after, ∀ w, ¬(bundled config).GivesTo e property w) → pairs.get? property = some value) ∧
      ∀ e ∈ after, ∀ w, (property, w) ∈ (bundled config).emitted e → (bundled config).GivesTo e property w := by
  obtain ⟨-, -, rfl, -⟩ := keeps_iff.mp hkeeps
  have hgives : ∀ e ∈ after, ∀ w, (property, w) ∈ (bundled config).emitted e → (bundled config).GivesTo e property w := by
    intro e he w hmem
    exact (writes_or_givesTo_of_mem_emitted config hnative hmem).resolve_left (hlast e he w)
  have hvalue : (Entries.ofList (r.declarations.flatMap (bundled config).emitted)).get? property
      = some ((Entries.last? property (after.flatMap (bundled config).emitted)).getD value) := by
    rw [Entries.get?_ofList, hsplit, List.flatMap_append, List.flatMap_cons, Entries.last?_append, Entries.last?_append,
      last?_emitted_of_writes hnative hwrites]
    cases Entries.last? property (after.flatMap (bundled config).emitted) <;> rfl
  refine ⟨hvalue, fun hnone => ?_, hgives⟩
  have hrest : Entries.last? property (after.flatMap (bundled config).emitted) = none := by
    refine Option.eq_none_iff_forall_ne_some.mpr fun w hw => ?_
    obtain ⟨e, he, hmem⟩ := List.mem_flatMap.mp (Entries.mem_of_last? hw)
    exact hnone e he w (hgives e he w hmem)
  rw [hvalue, hrest]
  rfl

/-! ### A substitute after an explicit declaration -/

def column : Declaration := ⟨"flex-direction", Fragment.ofText? "column", false⟩

def flex : Declaration := ⟨"display", Fragment.ofText? "flex", false⟩

/-- The rule `.a { flex-direction: column; display: flex; }`. -/
def columnThenFlex : Rule := ⟨[Selector.ofText ".a"], [column, flex]⟩

def flexLines : Entries Text := [("flex-direction", "row"), ("align-items", "stretch"), ("justify-content", "flex-start")]

theorem keeps_columnThenFlex : (bundled .empty).Keeps columnThenFlex [".a".toList] flexLines :=
  keeps_of_verdict (by rw [bundled, Policy.bundled_eq]; decide +kernel)

theorem declarations_columnThenFlex : columnThenFlex.declarations = [] ++ column :: [flex] := rfl

theorem isNative_flexDirection : Policy.bundled.isNative "flex-direction" = true := by
  rw [Policy.isNative_bundled]
  decide

theorem writes_column : (bundled .empty).Writes column "flex-direction" "column" := by
  refine ⟨?_, ?_, ?_, ?_⟩ <;> decide +kernel

theorem not_writes_flex (value : Text) : ¬(bundled .empty).Writes flex "flex-direction" value := fun h =>
  absurd h.2.1 (by decide)

/-- The row that `display: flex` stands for is what is written, not the column before it. -/
theorem last_given_value_written_columnThenFlex :
    (bundled .empty).Keeps columnThenFlex [".a".toList] flexLines ∧
      columnThenFlex.declarations = [] ++ column :: [flex] ∧
      (bundled .empty).Writes column "flex-direction" "column" ∧
      Entries.get? "flex-direction" flexLines
        = some ((Entries.last? "flex-direction" ([flex].flatMap (bundled .empty).emitted)).getD "column") :=
  ⟨keeps_columnThenFlex, declarations_columnThenFlex, writes_column,
    (last_given_value_written .empty keeps_columnThenFlex isNative_flexDirection declarations_columnThenFlex writes_column
      (List.forall_mem_singleton.mpr not_writes_flex)).1⟩

/-- It is not so that the last explicit declaration of a native property always decides. -/
theorem explicit_value_replaced :
    ¬∀ (config : Config) (r : Rule) (header : List Text) (pairs : Entries Text) (property value : Text)
      (before after : List Declaration) (d : Declaration),
      (bundled config).Keeps r header pairs → Policy.bundled.isNative property = true →
      r.declarations = before ++ d :: after → (bundled config).Writes d property value →
      (∀ e ∈ after, ∀ w, ¬(bundled config).Writes e property w) → pairs.get? property = some value := by
  intro hall
  have hcolumn := hall .empty columnThenFlex _ _ "flex-direction" "column" [] [flex] column keeps_columnThenFlex
    isNative_flexDirection declarations_columnThenFlex writes_column (List.forall_mem_singleton.mpr not_writes_flex)
  revert hcolumn
  decide

end Converter

end UiToolkit
