import UiToolkit.Proofs.Attempt
import UiToolkit.Settings.Config
import UiToolkit.Settings.Policy
import UiToolkit.Settings.Variables

/-!
# How loading fails

Each settings file has an error of its own for whatever is wrong with it. Two faults pass every loader by, bytes that are no text and a whole number that is too long; where neither is met, the loaders of this module fail with their own errors alone. The fallbacks, which have one more such fault, have a module of their own.
-/

namespace UiToolkit

open Attempt

/-! ### Kinds of faults -/

namespace Fault

def IsConfig (e : Fault) : Prop := ∃ own, e = .config own

def IsPolicy (e : Fault) : Prop := ∃ own, e = .policy own

def IsMetadata (e : Fault) : Prop := ∃ own, e = .metadata own

end Fault

/-- Whatever stops the computation is a fault of the given kind. -/
def FailsOnlyWith {α : Type} (own : Fault → Prop) (x : Except Fault α) : Prop := ∀ e, x = .error e → own e

namespace FailsOnlyWith

variable {α β : Type} {own : Fault → Prop}

theorem ok (a : α) : FailsOnlyWith own (.ok a) := nofun

theorem error {e : Fault} (h : own e) : FailsOnlyWith own (.error e : Except Fault α) := by
  rintro _ ⟨⟩
  exact h

theorem bind_iff {x : Except Fault α} {f : α → Except Fault β} :
    FailsOnlyWith own (x >>= f) ↔ FailsOnlyWith own x ∧ ∀ a, x = .ok a → FailsOnlyWith own (f a) := by
  simp only [FailsOnlyWith, bind_eq_error]
  constructor
  · exact fun h => ⟨fun e he => h e (.inl he), fun a ha e he => h e (.inr ⟨a, ha, he⟩)⟩
  · rintro ⟨hx, hf⟩ e (he | ⟨a, ha, he⟩)
    · exact hx e he
    · exact hf a ha e he

theorem bind {x : Except Fault α} {f : α → Except Fault β} (hx : FailsOnlyWith own x)
    (hf : ∀ a, FailsOnlyWith own (f a)) : FailsOnlyWith own (x >>= f) :=
  bind_iff.mpr ⟨hx, fun a _ => hf a⟩

theorem map {x : Except Fault α} {f : α → β} (hx : FailsOnlyWith own x) : FailsOnlyWith own (x.map f) :=
  fun e he => hx e (map_apply_eq_error.mp he)

theorem mapM {f : α → Except Fault β} {as : List α} (hf : ∀ a, FailsOnlyWith own (f a)) :
    FailsOnlyWith own (as.mapM f) := by
  intro e he
  obtain ⟨-, a, -, -, -, ha⟩ := mapM_eq_error.mp he
  exact hf a e ha

theorem mapError {ε : Type} {x : Except ε α} {kind : ε → Fault} (hkind : ∀ e, own (kind e)) :
    FailsOnlyWith own (x.mapError kind) := by
  intro e he
  obtain ⟨cause, -, rfl⟩ := mapError_eq_error.mp he
  exact hkind cause

end FailsOnlyWith

/-! ### Files -/

namespace FileContent

/-- The bytes of the file, if there are any, are a text, and reading it does not stop at a number that is too long. -/
def IsLegible (content : FileContent) : Prop :=
  ∀ bytes, content = .ok bytes → ∃ text, Text.ofUtf8? bytes = some text ∧
    ∀ failure, Json.parse (Text.unifyLineEnds text) = .error failure → failure.problem ≠ .longInteger

/-- The file is the text of the JSON value. -/
def Holds (content : FileContent) (j : Json) : Prop :=
  ∃ bytes text, content = .ok bytes ∧ Text.ofUtf8? bytes = some text ∧ Json.parse (Text.unifyLineEnds text) = .ok j

theorem json_ok (fault : LoadError → Fault) {bytes : List UInt8} {text : Text} (h : Text.ofUtf8? bytes = some text) :
    json fault (.ok bytes) = match Json.parse (Text.unifyLineEnds text) with
      | .ok j => .ok j
      | .error failure => .error (if failure.problem == .longInteger then .longInteger
        else fault (.malformed (Text.unifyLineEnds text) failure)) := by
  simp only [json, decode, h]
  rfl

theorem json_ok_of_ofUtf8?_eq_none (fault : LoadError → Fault) {bytes : List UInt8} (h : Text.ofUtf8? bytes = none) :
    json fault (.ok bytes) = .error .undecodable := by
  simp only [json, decode, h]
  rfl

theorem json_eq_ok_iff {fault : LoadError → Fault} {content : FileContent} {j : Json} :
    content.json fault = .ok j ↔ content.Holds j := by
  constructor
  · intro h
    cases content with
    | error e => cases h
    | ok bytes =>
      cases htext : Text.ofUtf8? bytes with
      | none => simp [json_ok_of_ofUtf8?_eq_none fault htext] at h
      | some text =>
        rw [json_ok fault htext] at h
        cases hparse : Json.parse (Text.unifyLineEnds text) with
        | error failure => simp [hparse] at h
        | ok value =>
          rw [hparse] at h
          cases h
          exact ⟨bytes, text, rfl, htext, hparse⟩
  · rintro ⟨bytes, text, rfl, htext, hparse⟩
    rw [json_ok fault htext, hparse]

/-- Where a loader gives causes an error of its own, its file fails with nothing else exactly when it is legible. -/
theorem json_failsOnlyWith_iff {own : Fault → Prop} {fault : LoadError → Fault} (hfault : ∀ cause, own (fault cause))
    (hundecodable : ¬ own .undecodable) (hlong : ¬ own .longInteger) {content : FileContent} :
    FailsOnlyWith own (content.json fault) ↔ content.IsLegible := by
  cases content with
  | error e => exact iff_of_true (.error (hfault _)) nofun
  | ok bytes =>
    cases htext : Text.ofUtf8? bytes with
    | none =>
      rw [json_ok_of_ofUtf8?_eq_none fault htext]
      refine iff_of_false (fun h => hundecodable (h _ rfl)) fun h => ?_
      obtain ⟨text, hsome, -⟩ := h bytes rfl
      simp [htext] at hsome
    | some text =>
      rw [json_ok fault htext]
      have hlegible : IsLegible (.ok bytes) ↔ ∀ failure, Json.parse (Text.unifyLineEnds text) = .error failure →
          failure.problem ≠ .longInteger := by
        simp [IsLegible, htext]
      rw [hlegible]
      cases Json.parse (Text.unifyLineEnds text) with
      | ok j => exact iff_of_true (.ok j) nofun
      | error failure =>
        by_cases h : failure.problem = .longInteger
        · simp only [h, beq_self_eq_true, if_true]
          exact iff_of_false (fun hown => hlong (hown _ rfl)) fun hne => hne failure rfl h
        · simp only [beq_iff_eq, h, if_false]
          refine iff_of_true (.error (hfault _)) ?_
          rintro _ ⟨⟩
          exact h

/-- Loading is reading a JSON value and then a table from it. -/
theorem json_bind_failsOnlyWith_iff {α : Type} {own : Fault → Prop} {fault : LoadError → Fault}
    (hfault : ∀ cause, own (fault cause)) (hundecodable : ¬ own .undecodable) (hlong : ¬ own .longInteger)
    {content : FileContent} {read : Json → Except Fault α} :
    FailsOnlyWith own (content.json fault >>= read) ↔
      content.IsLegible ∧ ∀ j, content.Holds j → FailsOnlyWith own (read j) := by
  simp only [FailsOnlyWith.bind_iff, json_failsOnlyWith_iff hfault hundecodable hlong, json_eq_ok_iff]

/-- A loader that gives every fault of the value an error of its own, too, has no other reason to fail. -/
theorem json_bind_mapError_failsOnlyWith_iff {ε α : Type} {own : Fault → Prop} {fault : LoadError → Fault} {kind : ε → Fault}
    (hfault : ∀ cause, own (fault cause)) (hkind : ∀ e, own (kind e)) (hundecodable : ¬ own .undecodable)
    (hlong : ¬ own .longInteger) {content : FileContent} {read : Json → Except ε α} :
    FailsOnlyWith own (content.json fault >>= fun j => (read j).mapError kind) ↔ content.IsLegible := by
  rw [json_bind_failsOnlyWith_iff hfault hundecodable hlong, and_iff_left_iff_imp]
  exact fun _ j _ => .mapError hkind

end FileContent

/-! ### Loaders with one kind of fault -/

variable (path : Text) (content : FileContent)

theorem Config.load_failsOnlyWith_iff : FailsOnlyWith Fault.IsConfig (load path content) ↔ content.IsLegible :=
  FileContent.json_bind_mapError_failsOnlyWith_iff (fun _ => ⟨_, rfl⟩) (fun e => ⟨e, rfl⟩) nofun nofun

theorem PropertyTable.load_failsOnlyWith_iff : FailsOnlyWith Fault.IsPolicy (load path content) ↔ content.IsLegible :=
  FileContent.json_bind_mapError_failsOnlyWith_iff (fun _ => ⟨_, rfl⟩) (fun e => ⟨e, rfl⟩) nofun nofun

theorem Denylist.load_failsOnlyWith_iff : FailsOnlyWith Fault.IsPolicy (load path content) ↔ content.IsLegible :=
  FileContent.json_bind_mapError_failsOnlyWith_iff (fun _ => ⟨_, rfl⟩) (fun e => ⟨e, rfl⟩) nofun nofun

theorem Variable.load_failsOnlyWith_iff : FailsOnlyWith Fault.IsMetadata (load path content) ↔ content.IsLegible := by
  refine FileContent.json_bind_mapError_failsOnlyWith_iff (fun cause => ?_) (fun e => ⟨e, rfl⟩) nofun nofun
  -- A missing file has an error of its own.
  split
  · exact ⟨_, rfl⟩
  · exact ⟨_, rfl⟩

end UiToolkit
