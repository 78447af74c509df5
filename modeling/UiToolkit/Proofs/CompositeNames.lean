import UiToolkit.Proofs.Loading
import UiToolkit.Settings.Fallbacks

/-!
# Composite names in the fallbacks

The name of a transformation is looked up before anything checks that it is a name. An array or an object in its place stops the reading with a fault that is none of the loader's errors, provided that nothing before it is wrong; every other fault of the fallbacks names its place. Places only stand in messages, so what a part of the file comes to is the same at every place.
-/

namespace UiToolkit

open Attempt

/-- What reading the fallbacks from a JSON value can come to. -/
def Fault.IsFallback (e : Fault) : Prop := e.IsPolicy ∨ e = .compositeName

namespace FallbackTable

/-! ### Parts of a table -/

/-- The conditions of a rule, by what it has for `when`. -/
def conditionsOfJson (place : Text) (j : Json) : Except Fault (Entries Json) :=
  match j with
  | .object fields => .ok fields
  | other => if other.isTruthy then fail place .guardNotObject else .ok []

/-- A rule from its substitutes and its conditions. -/
def ruleOfParts (place : Text) (emit : List Json) (conditions : Entries Json) : Except Fault Fallback := do
  let substitutes ← substitutesOfJson (place ++ ".emit") 0 emit
  let equals ← valuesOfJson (place ++ ".when.equals") (Json.member "equals" conditions)
  let notEquals ← valuesOfJson (place ++ ".when.not_equals") (Json.member "not_equals" conditions)
  let contains := match Json.member "contains" conditions with
    | .null => none
    | j => some (Text.lower j.toText)
  return ⟨⟨equals, notEquals, contains⟩, substitutes⟩

theorem ruleOfJson_of_array {place : Text} {j : Json} {emit : List Json}
    (h : Json.member "emit" (j.object?.getD []) = .array emit) :
    ruleOfJson place j =
      conditionsOfJson place (Json.member "when" (j.object?.getD [])) >>= ruleOfParts place emit := by
  unfold ruleOfJson
  simp only [h]
  generalize Json.member "when" (j.object?.getD []) = conditions
  unfold conditionsOfJson
  cases conditions with
  | object fields => rfl
  | _ => dsimp only; split <;> rfl

theorem ruleOfJson_of_not_array {place : Text} {j : Json}
    (h : ∀ emit, Json.member "emit" (j.object?.getD []) ≠ .array emit) :
    ruleOfJson place j = fail place .noSubstitutes := by
  unfold ruleOfJson
  dsimp only
  split
  · rename_i emit hemit
    exact absurd hemit (h emit)
  · rfl

/-- One property of the table with its rules. -/
def entryOfJson (name : Text) (j : Json) : Except Fault (Text × List Fallback) :=
  match j with
  | .array rules => do return (name, ← rulesOfJson ("fallbacks['" ++ name ++ "']") 0 rules)
  | _ => fail ("fallbacks['" ++ name ++ "']") .notRules

theorem ofJson_object (path : Text) (members : List (Text × Json)) :
    ofJson path (.object members) =
      (members.mapM fun (name, j) => entryOfJson name j) >>= fun entries => return ofEntries entries := rfl

/-! ### Faults of the parts -/

theorem failsOnlyWith_fail {α : Type} {place : Text} {problem : FallbackProblem} :
    FailsOnlyWith Fault.IsFallback (fail place problem : Except Fault α) := .error (.inl ⟨_, rfl⟩)

theorem failsOnlyWith_transformationOfJson {place : Text} {j : Json} :
    FailsOnlyWith Fault.IsFallback (transformationOfJson place j) := by
  unfold transformationOfJson
  split
  · exact .ok _
  · exact .error (.inr rfl)
  · exact .error (.inr rfl)
  · split
    · exact .ok _
    · exact failsOnlyWith_fail

theorem failsOnlyWith_fillingOfJson {place : Text} {members : Entries Json} :
    FailsOnlyWith Fault.IsFallback (fillingOfJson place members) := by
  unfold fillingOfJson
  split
  · exact .ok _
  · exact .ok _
  · exact .ok _
  · exact failsOnlyWith_fail
  · exact failsOnlyWith_transformationOfJson
  · exact failsOnlyWith_fail

theorem failsOnlyWith_substituteOfJson {place : Text} {j : Json} :
    FailsOnlyWith Fault.IsFallback (substituteOfJson place j) := by
  unfold substituteOfJson
  dsimp only
  split
  · exact .map failsOnlyWith_fillingOfJson
  · exact failsOnlyWith_fail

theorem failsOnlyWith_substitutesOfJson {place : Text} {i : Nat} {js : List Json} :
    FailsOnlyWith Fault.IsFallback (substitutesOfJson place i js) := by
  induction js generalizing i with
  | nil => exact .ok _
  | cons j js ih => exact .bind failsOnlyWith_substituteOfJson fun _ => .bind ih fun _ => .ok _

theorem failsOnlyWith_valuesOfJson {place : Text} {j : Json} :
    FailsOnlyWith Fault.IsFallback (valuesOfJson place j) := by
  unfold valuesOfJson
  split
  · exact .ok _
  · exact .ok _
  · exact .ok _
  · exact failsOnlyWith_fail

theorem failsOnlyWith_conditionsOfJson {place : Text} {j : Json} :
    FailsOnlyWith Fault.IsFallback (conditionsOfJson place j) := by
  unfold conditionsOfJson
  split
  · exact .ok _
  · split
    · exact failsOnlyWith_fail
    · exact .ok _

theorem failsOnlyWith_ruleOfJson {place : Text} {j : Json} : FailsOnlyWith Fault.IsFallback (ruleOfJson place j) := by
  by_cases h : ∃ emit, Json.member "emit" (j.object?.getD []) = .array emit
  · obtain ⟨emit, hemit⟩ := h
    rw [ruleOfJson_of_array hemit]
    refine .bind failsOnlyWith_conditionsOfJson fun conditions => ?_
    exact .bind failsOnlyWith_substitutesOfJson fun _ => .bind failsOnlyWith_valuesOfJson fun _ =>
      .bind failsOnlyWith_valuesOfJson fun _ => .ok _
  · rw [ruleOfJson_of_not_array (not_exists.mp h)]
    exact failsOnlyWith_fail

theorem failsOnlyWith_rulesOfJson {place : Text} {i : Nat} {js : List Json} :
    FailsOnlyWith Fault.IsFallback (rulesOfJson place i js) := by
  induction js generalizing i with
  | nil => exact .ok _
  | cons j js ih => exact .bind failsOnlyWith_ruleOfJson fun _ => .bind ih fun _ => .ok _

theorem failsOnlyWith_entryOfJson {name : Text} {j : Json} :
    FailsOnlyWith Fault.IsFallback (entryOfJson name j) := by
  unfold entryOfJson
  split
  · exact .bind failsOnlyWith_rulesOfJson fun _ => .ok _
  · exact failsOnlyWith_fail

theorem failsOnlyWith_ofJson {path : Text} {j : Json} : FailsOnlyWith Fault.IsFallback (ofJson path j) := by
  cases j with
  | object members =>
    rw [ofJson_object]
    exact .bind (.mapM fun _ => failsOnlyWith_entryOfJson) fun _ => .ok _
  | _ => exact .error (.inl ⟨_, rfl⟩)

/-! ### Places -/

/-- A fault without the place that it names. -/
def unplaced : Fault → Fault
  | .policy (.fallback _ problem) => .policy (.fallback [] problem)
  | e => e

theorem unplaced_eq_compositeName_iff {e : Fault} : unplaced e = .compositeName ↔ e = .compositeName := by
  unfold unplaced
  split <;> simp

theorem mapError_eq_compositeName_iff {α : Type} {x : Except Fault α} :
    x.mapError unplaced = .error .compositeName ↔ x = .error .compositeName := by
  simp [mapError_eq_error, unplaced_eq_compositeName_iff]

theorem mapError_fail {α : Type} (place : Text) (problem : FallbackProblem) :
    (fail place problem : Except Fault α).mapError unplaced = fail [] problem := rfl

theorem mapError_transformationOfJson (place : Text) (j : Json) :
    (transformationOfJson place j).mapError unplaced = transformationOfJson [] j := by
  unfold transformationOfJson
  split
  · rfl
  · rfl
  · rfl
  · split
    · rfl
    · rfl

theorem mapError_fillingOfJson (place : Text) (members : Entries Json) :
    (fillingOfJson place members).mapError unplaced = fillingOfJson [] members := by
  unfold fillingOfJson
  split <;> first | rfl | exact mapError_transformationOfJson place _

theorem mapError_substituteOfJson (place : Text) (j : Json) :
    (substituteOfJson place j).mapError unplaced = substituteOfJson [] j := by
  unfold substituteOfJson
  dsimp only
  split
  · rw [← mapError_fillingOfJson place]
    cases fillingOfJson place (j.object?.getD []) <;> rfl
  · rfl

theorem mapError_substitutesOfJson (place : Text) (i : Nat) (js : List Json) :
    (substitutesOfJson place i js).mapError unplaced = js.mapM (substituteOfJson []) := by
  induction js generalizing i with
  | nil => rfl
  | cons j js ih =>
    rw [substitutesOfJson, mapError_bind, mapError_substituteOfJson, List.mapM_cons]
    simp only [mapError_bind, ih]
    rfl

theorem mapError_valuesOfJson (place : Text) (j : Json) :
    (valuesOfJson place j).mapError unplaced = valuesOfJson [] j := by
  unfold valuesOfJson
  split <;> rfl

theorem mapError_conditionsOfJson (place : Text) (j : Json) :
    (conditionsOfJson place j).mapError unplaced = conditionsOfJson [] j := by
  unfold conditionsOfJson
  split
  · rfl
  · split <;> rfl

theorem mapError_ruleOfParts (place : Text) (emit : List Json) (conditions : Entries Json) :
    (ruleOfParts place emit conditions).mapError unplaced = (ruleOfParts [] emit conditions).mapError unplaced := by
  simp only [ruleOfParts, mapError_bind, mapError_substitutesOfJson, mapError_valuesOfJson]

theorem mapError_ruleOfJson (place : Text) (j : Json) :
    (ruleOfJson place j).mapError unplaced = (ruleOfJson [] j).mapError unplaced := by
  by_cases h : ∃ emit, Json.member "emit" (j.object?.getD []) = .array emit
  · obtain ⟨emit, hemit⟩ := h
    simp only [ruleOfJson_of_array hemit, mapError_bind, mapError_conditionsOfJson, mapError_ruleOfParts place]
  · simp only [ruleOfJson_of_not_array (not_exists.mp h), mapError_fail]

theorem mapError_rulesOfJson (place : Text) (i : Nat) (js : List Json) :
    (rulesOfJson place i js).mapError unplaced = js.mapM fun j => (ruleOfJson [] j).mapError unplaced := by
  induction js generalizing i with
  | nil => rfl
  | cons j js ih =>
    rw [rulesOfJson, mapError_bind, mapError_ruleOfJson, List.mapM_cons]
    simp only [mapError_bind, ih]
    rfl

/-! ### Composite names -/

/-- Of the items, the first that is not `good` is `bad`. -/
def FirstAt {α : Type} (good bad : α → Prop) (items : List α) : Prop :=
  ∃ before a after, items = before ++ a :: after ∧ (∀ b ∈ before, good b) ∧ bad a

/-- An array or an object stands where the name of a transformation is expected, and nothing is wrong before it. -/
def HasCompositeName (substitute : Json) : Prop :=
  let members := substitute.object?.getD []
  (Json.member "property" members).isTruthy = true ∧ members.get? "value" = none ∧ members.get? "map" = none ∧
    ∃ name, members.get? "transform" = some name ∧ (name.array?.isSome ∨ name.object?.isSome)

/-- Reading the rule comes to a composite name; substitutes without a fault may stand before it. -/
def RuleMeetsCompositeName (rule : Json) : Prop :=
  let members := rule.object?.getD []
  let guard := Json.member "when" members
  ∃ emit, Json.member "emit" members = .array emit ∧ (guard.object?.isSome ∨ guard.isTruthy = false) ∧
    FirstAt (Succeeds <| substituteOfJson [] ·) HasCompositeName emit

/-- Reading the table comes to a composite name; properties and rules without a fault may stand before it. -/
def MeetsCompositeName (table : Json) : Prop :=
  ∃ members, table = .object members ∧
    FirstAt (fun (_, j) => ∃ rules, j = .array rules ∧ ∀ rule ∈ rules, Succeeds (ruleOfJson [] rule))
      (fun (_, j) => ∃ rules, j = .array rules ∧ FirstAt (Succeeds <| ruleOfJson [] ·) RuleMeetsCompositeName rules)
      members

theorem fail_ne_compositeName {α : Type} {place : Text} {problem : FallbackProblem} :
    (fail place problem : Except Fault α) ≠ .error .compositeName := by
  simp [fail]

theorem mapM_eq_compositeName_iff {α β : Type} {f : α → Except Fault β} {good bad : α → Prop} {items : List α}
    (hgood : ∀ a, Succeeds (f a) ↔ good a) (hbad : ∀ a, f a = .error .compositeName ↔ bad a) :
    items.mapM f = .error .compositeName ↔ FirstAt good bad items := by
  simp only [mapM_eq_error, FirstAt, hgood, hbad]

theorem transformationOfJson_eq_compositeName_iff {place : Text} {j : Json} :
    transformationOfJson place j = .error .compositeName ↔ j.array?.isSome ∨ j.object?.isSome := by
  unfold transformationOfJson
  split
  · simp [Json.array?, Json.object?]
  · simp [Json.array?]
  · simp [Json.object?]
  · rename_i harray hobject
    have hnone : j.array? = none ∧ j.object? = none := by
      cases j <;> simp_all [Json.array?, Json.object?]
    simp only [hnone]
    split <;> simp [fail]

theorem fillingOfJson_eq_compositeName_iff {place : Text} {members : Entries Json} :
    fillingOfJson place members = .error .compositeName ↔ members.get? "value" = none ∧ members.get? "map" = none ∧
      ∃ name, members.get? "transform" = some name ∧ (name.array?.isSome ∨ name.object?.isSome) := by
  unfold fillingOfJson
  split <;> simp_all [fail, transformationOfJson_eq_compositeName_iff]

theorem substituteOfJson_eq_compositeName_iff {place : Text} {j : Json} :
    substituteOfJson place j = .error .compositeName ↔ HasCompositeName j := by
  unfold substituteOfJson HasCompositeName
  dsimp only
  split
  · rename_i hproperty
    rw [map_apply_eq_error, fillingOfJson_eq_compositeName_iff, and_iff_right hproperty]
  · rename_i hproperty
    exact iff_of_false fail_ne_compositeName fun h => hproperty h.1

theorem valuesOfJson_ne_compositeName (place : Text) (j : Json) : valuesOfJson place j ≠ .error .compositeName := by
  unfold valuesOfJson
  split
  · simp
  · simp
  · simp
  · exact fail_ne_compositeName

theorem substitutesOfJson_eq_compositeName_iff {place : Text} {i : Nat} {js : List Json} :
    substitutesOfJson place i js = .error .compositeName ↔
      FirstAt (Succeeds <| substituteOfJson [] ·) HasCompositeName js := by
  rw [← mapError_eq_compositeName_iff, mapError_substitutesOfJson]
  exact mapM_eq_compositeName_iff (fun _ => Iff.rfl) fun _ => substituteOfJson_eq_compositeName_iff

theorem conditionsOfJson_ne_compositeName (place : Text) (j : Json) :
    conditionsOfJson place j ≠ .error .compositeName := by
  unfold conditionsOfJson
  split
  · simp
  · split
    · exact fail_ne_compositeName
    · simp

theorem succeeds_conditionsOfJson_iff {place : Text} {j : Json} :
    Succeeds (conditionsOfJson place j) ↔ j.object?.isSome ∨ j.isTruthy = false := by
  unfold conditionsOfJson
  split
  · simp [Json.object?]
  · rename_i hobject
    have hnone : j.object? = none := by
      cases j with
      | object fields => exact absurd rfl (hobject fields)
      | _ => rfl
    split
    · simp_all [fail, Succeeds]
    · simp_all

theorem ruleOfParts_eq_compositeName_iff {place : Text} {emit : List Json} {conditions : Entries Json} :
    ruleOfParts place emit conditions = .error .compositeName ↔
      FirstAt (Succeeds <| substituteOfJson [] ·) HasCompositeName emit := by
  simp [ruleOfParts, bind_eq_error, substitutesOfJson_eq_compositeName_iff, valuesOfJson_ne_compositeName, pure,
    Except.pure]

theorem ruleOfJson_eq_compositeName_iff {place : Text} {j : Json} :
    ruleOfJson place j = .error .compositeName ↔ RuleMeetsCompositeName j := by
  rw [RuleMeetsCompositeName]
  by_cases h : ∃ emit, Json.member "emit" (j.object?.getD []) = .array emit
  · obtain ⟨emit, hemit⟩ := h
    simp only [ruleOfJson_of_array hemit, bind_eq_error, conditionsOfJson_ne_compositeName, false_or,
      ruleOfParts_eq_compositeName_iff, exists_and_right, hemit, Json.array.injEq, exists_eq_left']
    rw [← Succeeds, succeeds_conditionsOfJson_iff]
  · rw [ruleOfJson_of_not_array (not_exists.mp h)]
    refine iff_of_false fail_ne_compositeName ?_
    rintro ⟨emit, hemit, -⟩
    exact h ⟨emit, hemit⟩

theorem succeeds_rulesOfJson_iff {place : Text} {i : Nat} {js : List Json} :
    Succeeds (rulesOfJson place i js) ↔ ∀ rule ∈ js, Succeeds (ruleOfJson [] rule) := by
  rw [← succeeds_mapError, mapError_rulesOfJson, succeeds_mapM]
  simp only [succeeds_mapError]

theorem rulesOfJson_eq_compositeName_iff {place : Text} {i : Nat} {js : List Json} :
    rulesOfJson place i js = .error .compositeName ↔
      FirstAt (Succeeds <| ruleOfJson [] ·) RuleMeetsCompositeName js := by
  rw [← mapError_eq_compositeName_iff, mapError_rulesOfJson]
  exact mapM_eq_compositeName_iff (fun _ => succeeds_mapError) fun _ =>
    mapError_eq_compositeName_iff.trans ruleOfJson_eq_compositeName_iff

theorem succeeds_entryOfJson_iff {name : Text} {j : Json} :
    Succeeds (entryOfJson name j) ↔ ∃ rules, j = .array rules ∧ ∀ rule ∈ rules, Succeeds (ruleOfJson [] rule) := by
  unfold entryOfJson
  split
  · simp only [succeeds_bind, succeeds_pure, and_true]
    rw [← Succeeds, succeeds_rulesOfJson_iff]
    simp
  · rename_i hrules
    refine iff_of_false nofun ?_
    rintro ⟨rules, rfl, -⟩
    exact hrules rules rfl

theorem entryOfJson_eq_compositeName_iff {name : Text} {j : Json} :
    entryOfJson name j = .error .compositeName ↔
      ∃ rules, j = .array rules ∧ FirstAt (Succeeds <| ruleOfJson [] ·) RuleMeetsCompositeName rules := by
  unfold entryOfJson
  split
  · simp [bind_eq_error, rulesOfJson_eq_compositeName_iff, pure, Except.pure]
  · rename_i hrules
    refine iff_of_false fail_ne_compositeName ?_
    rintro ⟨rules, rfl, -⟩
    exact hrules rules rfl

theorem ofJson_eq_compositeName_iff {path : Text} {j : Json} :
    ofJson path j = .error .compositeName ↔ MeetsCompositeName j := by
  unfold MeetsCompositeName
  cases j with
  | object members =>
    rw [ofJson_object, bind_eq_error]
    simp only [pure, Except.pure, reduceCtorEq, and_false, exists_false, or_false, Json.object.injEq, exists_eq_left']
    exact mapM_eq_compositeName_iff (fun _ => succeeds_entryOfJson_iff) fun _ => entryOfJson_eq_compositeName_iff
  | _ => simp [ofJson]

/-! ### Files of fallbacks -/

/-- With nothing illegible in the file, a composite name is the only fault that is not one of the loader's own. -/
theorem load_failsOnlyWith_iff (path : Text) (content : FileContent) :
    FailsOnlyWith Fault.IsPolicy (load path content) ↔
      content.IsLegible ∧ ∀ table, content.Holds table → ¬ MeetsCompositeName table := by
  rw [load, FileContent.json_bind_failsOnlyWith_iff (fun cause => ⟨_, rfl⟩) nofun nofun]
  refine and_congr_right fun _ => forall₂_congr fun table _ => ?_
  rw [← @ofJson_eq_compositeName_iff path]
  -- Every other fault that reading the value can come to is one of the loader's own.
  constructor
  · rintro hown hcomposite
    obtain ⟨own, ⟨⟩⟩ := hown _ hcomposite
  · rintro hcomposite e he
    rcases failsOnlyWith_ofJson e he with hpolicy | rfl
    · exact hpolicy
    · exact absurd he hcomposite

end FallbackTable

/-- Each loader fails with its own errors alone as long as its file is legible, and the fallbacks need no more than to be free of composite names. The files are those whose values are not nested too deep for a reader. -/
theorem loaders_failOnlyWith_own_iff (path : Text) (content : FileContent) :
    (FailsOnlyWith Fault.IsConfig (Config.load path content) ↔ content.IsLegible) ∧
    (FailsOnlyWith Fault.IsPolicy (PropertyTable.load path content) ↔ content.IsLegible) ∧
    (FailsOnlyWith Fault.IsPolicy (Denylist.load path content) ↔ content.IsLegible) ∧
    (FailsOnlyWith Fault.IsMetadata (Variable.load path content) ↔ content.IsLegible) ∧
    (FailsOnlyWith Fault.IsPolicy (FallbackTable.load path content) ↔
      content.IsLegible ∧ ∀ table, content.Holds table → ¬ FallbackTable.MeetsCompositeName table) :=
  ⟨Config.load_failsOnlyWith_iff path content, PropertyTable.load_failsOnlyWith_iff path content,
    Denylist.load_failsOnlyWith_iff path content, Variable.load_failsOnlyWith_iff path content,
    FallbackTable.load_failsOnlyWith_iff path content⟩

/-- A file with a substitute whose transformation is an empty array. -/
def FallbackTable.compositeFile : FileContent :=
  .ok (Text.utf8 "\x7b\"a\":[\x7b\"emit\":[\x7b\"property\":\"b\",\"transform\":[]\x7d]\x7d]\x7d")

theorem FallbackTable.load_compositeFile_not_failsOnlyWith :
    ¬ FailsOnlyWith Fault.IsPolicy (load "fallbacks.json" compositeFile) := by
  have hfault : (match load "fallbacks.json" compositeFile with
      | .error e => e == .compositeName
      | .ok _ => false) = true := by
    decide +kernel
  intro hown
  cases hload : load "fallbacks.json" compositeFile with
  | ok table =>
    rw [hload] at hfault
    cases hfault
  | error e =>
    obtain ⟨own, rfl⟩ := hown e hload
    rw [hload] at hfault
    cases hfault

end UiToolkit
