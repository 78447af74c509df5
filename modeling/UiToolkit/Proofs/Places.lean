import UiToolkit.Proofs.RelativeLengths

/-!
# Guarded spans and the places outside them

The guarded spans of a text, and the places between them, each told by what stands before it and what stands from there on. A text has no term of a pass when none is read at such a place. A pass keeps the guarded spans: those that were there are found again, and neither its terms nor what is written for them begin one.
-/

namespace UiToolkit.Piece

open Declaration Text

-- How far a guarded span goes does not matter below, only that both definitions go on behind it.
attribute [local irreducible] guardedExtent?

/-- The guarded spans of a text, in order. -/
def spans : Text → List Text
  | [] => []
  | c :: cs =>
    match guardedExtent? c cs with
    | some n => (c :: cs.take n) :: spans (cs.drop n)
    | none => spans cs
termination_by s => s.length
decreasing_by all_goals simp +arith

/-- The places outside guarded spans: the text before each of them, and the text that begins there. -/
def placesAfter (before : Text) : Text → List (Text × Text)
  | [] => []
  | c :: cs =>
    match guardedExtent? c cs with
    | some n => placesAfter (before ++ c :: cs.take n) (cs.drop n)
    | none => (before, c :: cs) :: placesAfter (before ++ [c]) cs
termination_by s => s.length
decreasing_by all_goals simp +arith

def places (s : Text) : List (Text × Text) := placesAfter [] s

/-! ### Places -/

theorem append_of_mem_placesAfter {before s : Text} {place : Text × Text} (h : place ∈ placesAfter before s) :
    place.1 ++ place.2 = before ++ s := by
  induction before, s using placesAfter.induct with
  | case1 before =>
    rw [placesAfter] at h
    cases h
  | case2 before c cs n hguarded ih =>
    rw [placesAfter, hguarded] at h
    rw [ih h, List.append_assoc, List.cons_append, List.take_append_drop]
  | case3 before c cs hguarded ih =>
    rw [placesAfter, hguarded] at h
    rcases List.mem_cons.mp h with rfl | hrest
    · rfl
    · rw [ih hrest, List.append_assoc, List.singleton_append]

theorem exists_cons_of_mem_placesAfter {before s : Text} {place : Text × Text} (h : place ∈ placesAfter before s) :
    ∃ c cs, place.2 = c :: cs := by
  induction before, s using placesAfter.induct with
  | case1 before =>
    rw [placesAfter] at h
    cases h
  | case2 before c cs n hguarded ih =>
    rw [placesAfter, hguarded] at h
    exact ih h
  | case3 before c cs hguarded ih =>
    rw [placesAfter, hguarded] at h
    rcases List.mem_cons.mp h with rfl | hrest
    · exact ⟨c, cs, rfl⟩
    · exact ih hrest

theorem exists_cons_of_mem_places {s : Text} {place : Text × Text} (h : place ∈ places s) :
    ∃ c cs, place.2 = c :: cs :=
  exists_cons_of_mem_placesAfter h

variable {α : Type}

/-- No term is found in a text exactly when none is read at a place outside guarded spans. -/
theorem hasNoTerm_iff_placesAfter {read : Reader α} (before s : Text) :
    HasNoTerm read before.getLast? s ↔
      ∀ place ∈ placesAfter before s, ∀ c cs, place.2 = c :: cs → read place.1.getLast? c cs = none := by
  induction before, s using placesAfter.induct with
  | case1 before =>
    rw [placesAfter]
    exact ⟨fun _ place hplace => (by cases hplace), fun _ => hasNoTerm_nil read _⟩
  | case2 before c cs n hguarded ih =>
    have hlast : (before ++ c :: cs.take n).getLast? = some (lastOf c (cs.take n)) := by
      rw [List.getLast?_append_of_ne_nil _ (List.cons_ne_nil _ _), some_lastOf, List.getLast?_cons]
      cases (cs.take n).getLast? <;> rfl
    rw [hasNoTerm_guarded hguarded, placesAfter, hguarded, ← ih, hlast]
  | case3 before c cs hguarded ih =>
    rw [hasNoTerm_plain hguarded, placesAfter, hguarded, List.forall_mem_cons, ← ih, List.getLast?_concat]
    refine and_congr_left' ⟨fun h d ds heq => ?_, fun h => h c cs rfl⟩
    obtain ⟨rfl, rfl⟩ := List.cons.inj heq
    exact h

theorem hasNoTerm_iff_places {read : Reader α} {s : Text} :
    HasNoTerm read none s ↔ ∀ place ∈ places s, ∀ c cs, place.2 = c :: cs → read place.1.getLast? c cs = none :=
  hasNoTerm_iff_placesAfter [] s

/-! ### Spans -/

theorem spans_guarded {c : Char} {cs : Text} {n : Nat} (hguarded : guardedExtent? c cs = some n) (rest : Text) :
    spans (c :: cs.take n ++ rest) = (c :: cs.take n) :: spans rest := by
  have hlength := guardedExtent?_le_length hguarded
  rw [List.cons_append, spans, guardedExtent?_append hguarded]
  simp only
  rw [List.take_append_of_le_length (by simp [hlength]), List.take_take, Nat.min_self,
    List.drop_append_of_le_length (by simp [hlength]), List.drop_take_self, List.nil_append]

theorem spans_append {run rest : Text} (hguards : ∀ x c y, run = x ++ c :: y → guardedExtent? c (y ++ rest) = none) :
    spans (run ++ rest) = spans rest := by
  induction run with
  | nil => rfl
  | cons c run ih =>
    rw [List.cons_append, spans, hguards [] c run rfl]
    exact ih fun x d y hsplit => hguards (c :: x) d y (by rw [hsplit, List.cons_append])

variable {read : Reader α} {write : α → Text}

/-- A pass keeps the guarded spans if its terms begin none. -/
theorem spans_rewrite
    (hguards : ∀ b c cs n meaning, read b c cs = some (n, meaning) →
      ∀ x d y, c :: cs.take n = x ++ d :: y → guardedExtent? d (y ++ cs.drop n) = none)
    {before : Option Char} {s : Text} (hpieces : ∀ p ∈ ofText read before s, p.IsOrdinary write) :
    spans (rewrite write (ofText read before s)) = spans s := by
  induction before, s using ofText.induct read with
  | case1 before => rw [ofText_nil, rewrite_nil]
  | case2 before c cs n hextent ih =>
    rw [ofText_guarded hextent] at hpieces ⊢
    have hrest := ih fun p hp => hpieces p (List.mem_cons_of_mem _ hp)
    rw [rewrite_guarded, spans_guarded hextent, hrest, ← spans_guarded hextent, List.cons_append, List.take_append_drop]
  | case3 before c cs hextent n meaning hread ih =>
    rw [ofText_term hextent hread] at hpieces ⊢
    obtain ⟨-, -, hinert⟩ := hpieces _ List.mem_cons_self
    have hrest := ih fun p hp => hpieces p (List.mem_cons_of_mem _ hp)
    have hterm := spans_append (hguards before c cs n meaning hread)
    rw [List.cons_append, List.take_append_drop] at hterm
    rw [rewrite_term, hterm, ← hrest]
    apply spans_append
    intro x d y hsplit
    exact guardedExtent?_eq_none (neverGuards_of_isInert (hinert d (by simp [hsplit]))) _
  | case4 before c cs hextent hread ih =>
    rw [ofText_plain hextent hread] at hpieces ⊢
    have hrestPieces := fun p hp => hpieces p (List.mem_cons_of_mem _ hp)
    have hnone := guardedExtent?_of_recast (recast_rewrite (some c) cs hrestPieces) hextent
    rw [rewrite_plain, spans, hnone, spans, hextent]
    exact ih hrestPieces

end UiToolkit.Piece

namespace UiToolkit

open Piece Text

theorem Value.spans_fillLeadingPoints (s : Text) : spans (Value.fillLeadingPoints s) = spans s := by
  refine spans_rewrite (fun b c cs n _ hread x d y hsplit => ?_) (Value.isOrdinary_leadingPoint none s)
  obtain ⟨rfl, rfl, -, -⟩ := Value.readLeadingPoint_eq_some hread
  obtain rfl : d = '.' := List.mem_singleton.mp (hsplit ▸ List.mem_append_right x List.mem_cons_self)
  exact guardedExtent?_eq_none (by decide) _

theorem Value.spans_viewportToPercent (s : Text) : spans (Value.viewportToPercent s) = spans s :=
  spans_rewrite (fun _ _ _ _ _ hread => Value.guardedExtent?_of_viewport hread) (Value.isOrdinary_viewport none s)

theorem Value.spans_normalize (s : Text) : spans (Value.normalize s) = spans s := by
  rw [Value.normalize, Value.spans_viewportToPercent, Value.spans_fillLeadingPoints]

theorem Pixels.spans_convertEms {s text : Text} (h : Pixels.convertEms s = .ok text) : spans text = spans s := by
  obtain ⟨rfl, -⟩ := Pixels.eq_rewrite_of_convertEms h
  refine spans_rewrite (fun b c cs n _ hread x d y hsplit => ?_) (Pixels.isOrdinary_of_mem_ofText none s)
  exact guardedExtent?_of_opensSpan (Pixels.opensSpan_of_readEm hread x d y hsplit)

end UiToolkit
