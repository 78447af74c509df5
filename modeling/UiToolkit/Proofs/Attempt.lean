import Mathlib.Data.List.Forall2

/-!
# Computations that may fail

What it takes for a sequence of steps, or for the same step on every item of a list, to succeed.
-/

namespace UiToolkit.Attempt

variable {ε α β : Type}

theorem bind_eq_ok {x : Except ε α} {f : α → Except ε β} {b : β} :
    (x >>= f) = .ok b ↔ ∃ a, x = .ok a ∧ f a = .ok b := by
  cases x <;> simp [bind, Except.bind]

theorem bind_eq_error {x : Except ε α} {f : α → Except ε β} {e : ε} :
    (x >>= f) = .error e ↔ x = .error e ∨ ∃ a, x = .ok a ∧ f a = .error e := by
  cases x <;> simp [bind, Except.bind]

theorem map_eq_ok {x : Except ε α} {f : α → β} {b : β} : (f <$> x) = .ok b ↔ ∃ a, x = .ok a ∧ f a = b := by
  cases x <;> simp [Functor.map, Except.map]

theorem return_eq_ok {a b : α} : (pure a : Except ε α) = .ok b ↔ a = b := by
  simp [pure, Except.pure]

theorem map_apply_eq_ok {x : Except ε α} {f : α → β} {b : β} : x.map f = .ok b ↔ ∃ a, x = .ok a ∧ f a = b :=
  map_eq_ok

theorem map_apply_eq_error {x : Except ε α} {f : α → β} {e : ε} : x.map f = .error e ↔ x = .error e := by
  cases x <;> simp [Except.map]

theorem mapError_eq_ok {δ : Type} {x : Except ε α} {k : ε → δ} {a : α} : x.mapError k = .ok a ↔ x = .ok a := by
  cases x <;> simp [Except.mapError]

theorem mapError_eq_error {δ : Type} {x : Except ε α} {k : ε → δ} {e : δ} :
    x.mapError k = .error e ↔ ∃ cause, x = .error cause ∧ k cause = e := by
  cases x <;> simp [Except.mapError]

theorem mapError_bind {δ : Type} (x : Except ε α) (f : α → Except ε β) (k : ε → δ) :
    (x >>= f).mapError k = x.mapError k >>= fun a => (f a).mapError k := by
  cases x <;> rfl

theorem mapM_eq_ok {f : α → Except ε β} {as : List α} {bs : List β} :
    as.mapM f = .ok bs ↔ List.Forall₂ (fun a b => f a = .ok b) as bs := by
  induction as generalizing bs with
  | nil => cases bs <;> simp [return_eq_ok]
  | cons a as ih =>
    simp only [List.mapM_cons, bind_eq_ok, return_eq_ok, ih]
    constructor
    · rintro ⟨b, hb, rest, hrest, rfl⟩
      exact .cons hb hrest
    · rintro (_ | ⟨hb, hrest⟩)
      exact ⟨_, hb, _, hrest, rfl⟩

theorem exists_of_mem_mapM {f : α → Except ε β} {as : List α} {bs : List β} (h : as.mapM f = .ok bs) {b : β} (hb : b ∈ bs) :
    ∃ a ∈ as, f a = .ok b := by
  rw [mapM_eq_ok] at h
  induction h with
  | nil => cases hb
  | cons hab _ ih =>
    rcases List.mem_cons.mp hb with rfl | hrest
    · exact ⟨_, List.mem_cons_self, hab⟩
    · obtain ⟨a, ha, hf⟩ := ih hrest
      exact ⟨a, List.mem_cons_of_mem _ ha, hf⟩

theorem exists_of_mem_of_mapM {f : α → Except ε β} {as : List α} {bs : List β} (h : as.mapM f = .ok bs) {a : α} (ha : a ∈ as) :
    ∃ b ∈ bs, f a = .ok b := by
  rw [mapM_eq_ok] at h
  induction h with
  | nil => cases ha
  | cons hab _ ih =>
    rcases List.mem_cons.mp ha with rfl | hrest
    · exact ⟨_, List.mem_cons_self, hab⟩
    · obtain ⟨b, hb, hf⟩ := ih hrest
      exact ⟨b, List.mem_cons_of_mem _ hb, hf⟩

/-- Where one step has a result, another one has a related result; then the same holds of the steps on a whole list. -/
theorem exists_mapM {f g : α → Except ε β} {r : β → β → Prop} {as : List α} {bs : List β} (h : as.mapM f = .ok bs)
    (hstep : ∀ a b, f a = .ok b → ∃ b', g a = .ok b' ∧ r b b') : ∃ bs', as.mapM g = .ok bs' ∧ List.Forall₂ r bs bs' := by
  simp only [mapM_eq_ok] at h ⊢
  induction h with
  | nil => exact ⟨[], .nil, .nil⟩
  | cons hab _ ih =>
    obtain ⟨b', hb', hr⟩ := hstep _ _ hab
    obtain ⟨bs', hbs', hrs⟩ := ih
    exact ⟨b' :: bs', .cons hb' hbs', .cons hr hrs⟩

/-- The computation has a result. -/
def Succeeds (x : Except ε α) : Prop := ∃ a, x = .ok a

theorem Succeeds.of_eq_ok {x : Except ε α} {a : α} (h : x = .ok a) : Succeeds x := ⟨a, h⟩

@[simp] theorem succeeds_ok (a : α) : Succeeds (.ok a : Except ε α) := ⟨a, rfl⟩

@[simp] theorem succeeds_pure (a : α) : Succeeds (pure a : Except ε α) := ⟨a, rfl⟩

@[simp] theorem succeeds_map {x : Except ε α} {f : α → β} : Succeeds (f <$> x) ↔ Succeeds x := by
  simp only [Succeeds, map_eq_ok]
  exact ⟨fun ⟨_, a, ha, _⟩ => ⟨a, ha⟩, fun ⟨a, ha⟩ => ⟨_, a, ha, rfl⟩⟩

theorem succeeds_bind {x : Except ε α} {f : α → Except ε β} :
    Succeeds (x >>= f) ↔ ∃ a, x = .ok a ∧ Succeeds (f a) := by
  simp only [Succeeds, bind_eq_ok]
  exact ⟨fun ⟨b, a, ha, hb⟩ => ⟨a, ha, b, hb⟩, fun ⟨a, ha, b, hb⟩ => ⟨b, a, ha, hb⟩⟩

theorem succeeds_mapM {f : α → Except ε β} {as : List α} : Succeeds (as.mapM f) ↔ ∀ a ∈ as, Succeeds (f a) := by
  induction as with
  | nil => simp
  | cons a as ih =>
    simp only [List.mapM_cons, succeeds_bind, succeeds_pure, and_true, List.forall_mem_cons, ← ih]
    exact ⟨fun ⟨b, hb, hrest⟩ => ⟨⟨b, hb⟩, hrest⟩, fun ⟨⟨b, hb⟩, hrest⟩ => ⟨b, hb, hrest⟩⟩

theorem succeeds_mapError {δ : Type} {x : Except ε α} {k : ε → δ} : Succeeds (x.mapError k) ↔ Succeeds x := by
  simp only [Succeeds, mapError_eq_ok]

/-- A step on a list fails as it does on the first item on which it does not succeed. -/
theorem mapM_eq_error {f : α → Except ε β} {as : List α} {e : ε} :
    as.mapM f = .error e ↔
      ∃ before a after, as = before ++ a :: after ∧ (∀ b ∈ before, Succeeds (f b)) ∧ f a = .error e := by
  induction as with
  | nil => simp [pure, Except.pure]
  | cons a as ih =>
    rw [List.mapM_cons, bind_eq_error]
    constructor
    · rintro (ha | ⟨b, hb, hrest⟩)
      · exact ⟨[], a, as, rfl, by simp, ha⟩
      · rcases bind_eq_error.mp hrest with has | ⟨_, _, hpure⟩
        · obtain ⟨before, c, after, rfl, hbefore, hc⟩ := ih.mp has
          exact ⟨a :: before, c, after, rfl, List.forall_mem_cons.mpr ⟨.of_eq_ok hb, hbefore⟩, hc⟩
        · cases hpure
    · rintro ⟨before, c, after, heq, hbefore, hc⟩
      cases before with
      | nil =>
        obtain ⟨rfl, -⟩ := List.cons_eq_cons.mp heq
        exact .inl hc
      | cons b before =>
        obtain ⟨rfl, rfl⟩ := List.cons_eq_cons.mp heq
        obtain ⟨⟨b, hb⟩, hbefore⟩ := List.forall_mem_cons.mp hbefore
        exact .inr ⟨b, hb, bind_eq_error.mpr (.inl (ih.mpr ⟨before, c, after, rfl, hbefore, hc⟩))⟩

section

variable {γ δ : Type} {r : γ → δ → Prop} {as : List γ} {bs : List δ}

theorem map_of_forall₂ {f : γ → α} {g : δ → α} (h : List.Forall₂ r as bs) (hfg : ∀ a b, r a b → f a = g b) :
    as.map f = bs.map g := by
  have hequal : List.Forall₂ Eq (as.map f) (bs.map g) :=
    List.forall₂_map_left_iff.mpr (List.forall₂_map_right_iff.mpr (h.imp hfg))
  rwa [List.forall₂_eq_eq_eq] at hequal

theorem flatMap_of_forall₂ {f : γ → List α} {g : δ → List α} (h : List.Forall₂ r as bs)
    (hfg : ∀ a b, r a b → f a = g b) : as.flatMap f = bs.flatMap g := by
  rw [List.flatMap_def, List.flatMap_def, map_of_forall₂ h hfg]

theorem filterMap_of_forall₂ {f : γ → Option α} {g : δ → Option α} (h : List.Forall₂ r as bs)
    (hfg : ∀ a b, r a b → f a = g b) : as.filterMap f = bs.filterMap g := by
  have hfound := congrArg (List.filterMap id) (map_of_forall₂ h hfg)
  rwa [List.filterMap_map, List.filterMap_map, Function.id_comp, Function.id_comp] at hfound

end

end UiToolkit.Attempt
