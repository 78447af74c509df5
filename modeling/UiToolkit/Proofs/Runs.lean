import UiToolkit.Text.Basic

/-!
# Runs that give way to others

A text may come from another by putting runs of characters in place of runs of others. Which runs are read and which are written is left open here: what a function of texts does with them depends on it.
-/

namespace UiToolkit.Text

variable {p q : Char → Bool} {run : Text}

/-- Some characters, all of one kind. -/
structure IsRun (p : Char → Bool) (run : Text) : Prop where
  ne_nil : run ≠ []
  all : ∀ c ∈ run, p c = true

namespace IsRun

theorem mono (hpq : ∀ {c}, p c = true → q c = true) (h : IsRun p run) : IsRun q run :=
  ⟨h.ne_nil, fun c hc => hpq (h.all c hc)⟩

theorem reverse (h : IsRun p run) : IsRun p run.reverse :=
  ⟨mt List.reverse_eq_nil_iff.mp h.ne_nil, fun c hc => h.all c (List.mem_reverse.mp hc)⟩

theorem exists_cons (h : IsRun p run) : ∃ c rest, run = c :: rest ∧ p c = true := by
  obtain ⟨c, rest, rfl⟩ := List.exists_cons_of_ne_nil h.ne_nil
  exact ⟨c, rest, rfl, h.all c List.mem_cons_self⟩

theorem takeWhile_append (h : IsRun p run) (s : Text) : (run ++ s).takeWhile p = run ++ s.takeWhile p :=
  List.takeWhile_append_of_pos h.all

theorem dropWhile_append (h : IsRun (!p ·) run) (s : Text) : (run ++ s).dropWhile p = run ++ s := by
  obtain ⟨c, rest, rfl, hc⟩ := h.exists_cons
  rw [List.cons_append, List.dropWhile_cons_of_neg (by simpa using hc)]

end IsRun

variable {P Q : Text → Prop} {s t s' t' : Text}

/-- The second text is the first one with runs that have `Q` in place of runs that have `P`. -/
inductive Replaced (P Q : Text → Prop) : Text → Text → Prop where
  | nil : Replaced P Q [] []
  | same (c : Char) {s t : Text} (h : Replaced P Q s t) : Replaced P Q (c :: s) (c :: t)
  | run {u v s t : Text} (hu : P u) (hv : Q v) (h : Replaced P Q s t) : Replaced P Q (u ++ s) (v ++ t)

namespace Replaced

theorem symm (h : Replaced P Q s t) : Replaced Q P t s := by
  induction h with
  | nil => exact .nil
  | same c _ ih => exact .same c ih
  | run hu hv _ ih => exact .run hv hu ih

theorem append (h : Replaced P Q s t) (h' : Replaced P Q s' t') : Replaced P Q (s ++ s') (t ++ t') := by
  induction h with
  | nil => exact h'
  | same c _ ih => exact .same c ih
  | run hu hv _ ih =>
    rw [List.append_assoc, List.append_assoc]
    exact .run hu hv ih

theorem reverse (hP : ∀ {u}, P u → P u.reverse) (hQ : ∀ {v}, Q v → Q v.reverse) (h : Replaced P Q s t) :
    Replaced P Q s.reverse t.reverse := by
  induction h with
  | nil => exact .nil
  | same c _ ih =>
    rw [List.reverse_cons, List.reverse_cons]
    exact ih.append (.same c .nil)
  | @run u v s t hu hv _ ih =>
    have hrun := Replaced.run (hP hu) (hQ hv) .nil
    rw [List.append_nil, List.append_nil] at hrun
    rw [List.reverse_append, List.reverse_append]
    exact ih.append hrun

theorem takeWhile (hP : ∀ {u}, P u → IsRun p u) (hQ : ∀ {v}, Q v → IsRun p v) (h : Replaced P Q s t) :
    Replaced P Q (s.takeWhile p) (t.takeWhile p) := by
  induction h with
  | nil => exact .nil
  | same c _ ih =>
    rw [List.takeWhile_cons, List.takeWhile_cons]
    split
    · exact .same c ih
    · exact .nil
  | run hu hv _ ih =>
    rw [(hP hu).takeWhile_append, (hQ hv).takeWhile_append]
    exact .run hu hv ih

theorem dropWhile (hP : ∀ {u}, P u → IsRun (!p ·) u) (hQ : ∀ {v}, Q v → IsRun (!p ·) v) (h : Replaced P Q s t) :
    Replaced P Q (s.dropWhile p) (t.dropWhile p) := by
  induction h with
  | nil => exact .nil
  | same c h ih =>
    rw [List.dropWhile_cons, List.dropWhile_cons]
    split
    · exact ih
    · exact .same c h
  | run hu hv h _ =>
    rw [(hP hu).dropWhile_append, (hQ hv).dropWhile_append]
    exact .run hu hv h

end Replaced

end UiToolkit.Text
