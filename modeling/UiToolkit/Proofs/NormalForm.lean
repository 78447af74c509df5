import UiToolkit.Proofs.Guards

/-!
# Values in normal form

A text has no term of a pass when the pass finds none outside guarded spans; the pass then leaves it alone. After each pass there is no term of it left, nor one of an earlier pass, so the passes together give a text that none of them changes.
-/

namespace UiToolkit

namespace Piece

open Declaration Text

variable {α β : Type}

theorem getLast?_cons_or (c : Char) (run : Text) (before : Option Char) :
    (c :: run).getLast?.or before = run.getLast?.or (some c) := by
  rw [List.getLast?_cons]
  cases run.getLast? <;> rfl

theorem some_lastOf (c : Char) (run : Text) : some (lastOf c run) = run.getLast?.or (some c) := by
  rw [lastOf, List.getLastD_eq_getLast?]
  cases run.getLast? <;> rfl

/-- No term is found in the text. -/
def HasNoTerm (read : Reader α) (before : Option Char) (s : Text) : Prop :=
  ∀ text meaning, .term text meaning ∉ ofText read before s

theorem hasNoTerm_nil (read : Reader α) (before : Option Char) : HasNoTerm read before [] := by
  intro text meaning h
  rw [ofText_nil] at h
  cases h

theorem hasNoTerm_guarded {read : Reader α} {before : Option Char} {c : Char} {cs : Text} {n : Nat}
    (hguarded : guardedExtent? c cs = some n) :
    HasNoTerm read before (c :: cs) ↔ HasNoTerm read (some (lastOf c (cs.take n))) (cs.drop n) := by
  unfold HasNoTerm
  rw [ofText_guarded hguarded]
  simp

theorem hasNoTerm_plain {read : Reader α} {before : Option Char} {c : Char} {cs : Text}
    (hguarded : guardedExtent? c cs = none) :
    HasNoTerm read before (c :: cs) ↔ read before c cs = none ∧ HasNoTerm read (some c) cs := by
  unfold HasNoTerm
  cases hread : read before c cs with
  | none =>
    rw [ofText_plain hguarded hread]
    simp
  | some found =>
    obtain ⟨n, meaning⟩ := found
    rw [ofText_term hguarded hread]
    simp only [List.mem_cons, reduceCtorEq, false_and, iff_false, not_forall, not_not]
    exact ⟨_, _, .inl rfl⟩

theorem rewrite_of_hasNoTerm {read : Reader α} {write : α → Text} {before : Option Char} {s : Text}
    (h : HasNoTerm read before s) : rewrite write (ofText read before s) = s := by
  have hsource : ∀ pieces : List (Piece α), (∀ text meaning, .term text meaning ∉ pieces) →
      rewrite write pieces = pieces.flatMap source := by
    intro pieces hpieces
    induction pieces with
    | nil => rfl
    | cons p pieces ih =>
      have hrest := ih fun text meaning hmem => hpieces text meaning (List.mem_cons_of_mem _ hmem)
      cases p with
      | guarded span => rw [rewrite_guarded, List.flatMap_cons, hrest, source]
      | term text meaning => exact absurd List.mem_cons_self (hpieces text meaning)
      | plain c => rw [rewrite_plain, List.flatMap_cons, hrest, source, List.singleton_append]
  rw [hsource _ h, flatMap_source_ofText]

/-- A run of characters that begin no guarded span and no term may be read over. -/
theorem hasNoTerm_append {read : Reader α} {run rest : Text} {before : Option Char}
    (hguards : ∀ x c y, run = x ++ c :: y → guardedExtent? c (y ++ rest) = none)
    (hread : ∀ x c y, run = x ++ c :: y → read (x.getLast?.or before) c (y ++ rest) = none)
    (hrest : HasNoTerm read (run.getLast?.or before) rest) : HasNoTerm read before (run ++ rest) := by
  induction run generalizing before with
  | nil => exact hrest
  | cons c run ih =>
    rw [List.cons_append, hasNoTerm_plain (hguards [] c run rfl)]
    rw [getLast?_cons_or] at hrest
    refine ⟨hread [] c run rfl, ih (fun x d y hsplit => hguards (c :: x) d y (by rw [hsplit, List.cons_append]))
      (fun x d y hsplit => ?_) hrest⟩
    have hlater := hread (c :: x) d y (by rw [hsplit, List.cons_append])
    rwa [getLast?_cons_or] at hlater

theorem hasNoTerm_drop {read : Reader α} {run rest : Text} {before : Option Char}
    (hguards : ∀ x c y, run = x ++ c :: y → guardedExtent? c (y ++ rest) = none)
    (h : HasNoTerm read before (run ++ rest)) : HasNoTerm read (run.getLast?.or before) rest := by
  induction run generalizing before with
  | nil => exact h
  | cons c run ih =>
    rw [List.cons_append, hasNoTerm_plain (hguards [] c run rfl)] at h
    rw [getLast?_cons_or]
    exact ih (fun x d y hsplit => hguards (c :: x) d y (by rw [hsplit, List.cons_append])) h.2

/-- The character keeps a term from beginning right after it. -/
def Blocks (read : Reader α) (c : Char) : Prop := ∀ d cs, read (some c) d cs = none

/-- The first characters after a pass are those from before, up to one after which a term may begin or that begins a guarded span. -/
theorem eq_append_of_rewrite {read : Reader α} {write : α → Text} {c : Char} {cs x y : Text} (hc : Blocks read c)
    (hx : ∀ d ∈ x, Blocks read d) (hguards : ∀ u d v, x = u ++ d :: v → guardedExtent? d (v ++ y) = none)
    (h : rewrite write (ofText read (some c) cs) = x ++ y) :
    ∃ rest, cs = x ++ rest ∧ y = rewrite write (ofText read (x.getLast?.or (some c)) rest) := by
  induction x generalizing c cs with
  | nil => exact ⟨cs, rfl, h.symm⟩
  | cons d x ih =>
    obtain ⟨hd, hothers⟩ := List.forall_mem_cons.mp hx
    cases cs with
    | nil =>
      rw [ofText_nil] at h
      cases h
    | cons e cs =>
      cases hguarded : guardedExtent? e cs with
      | some n =>
        rw [ofText_guarded hguarded] at h
        simp only [rewrite_guarded, List.cons_append, List.cons.injEq] at h
        obtain ⟨rfl, hrest⟩ := h
        have hnone := hguards [] e x rfl
        rw [← hrest, guardedExtent?_append hguarded] at hnone
        cases hnone
      | none =>
        rw [ofText_plain hguarded (hc e cs)] at h
        simp only [rewrite_plain, List.cons_append, List.cons.injEq] at h
        obtain ⟨rfl, hrest⟩ := h
        obtain ⟨rest, rfl, hy⟩ := ih hd hothers (fun u f v hsplit => hguards (e :: u) f v (by rw [hsplit, List.cons_append])) hrest
        exact ⟨rest, rfl, by rw [getLast?_cons_or, hy]⟩

/-- The first character after a pass is the one from before, if no term may begin there. -/
theorem head?_rewrite {read : Reader α} {write : α → Text} {c : Char} (hc : Blocks read c) (cs : Text) :
    (rewrite write (ofText read (some c) cs)).head? = cs.head? := by
  cases cs with
  | nil => rw [ofText_nil, rewrite_nil]
  | cons e cs =>
    cases hguarded : guardedExtent? e cs with
    | some n =>
      rw [ofText_guarded hguarded]
      rfl
    | none =>
      rw [ofText_plain hguarded (hc e cs)]
      rfl

theorem neverGuards_of_isInert {c : Char} (hc : isInert c = true) : neverGuards c = true := by
  have hordinary := isOrdinary_of_isInert hc
  have hletters := List.all_eq_true.mp (Bool.and_eq_true_iff.mp hc).2
  have hu := hletters 'u' (by decide)
  have hr := hletters 'r' (by decide)
  simp only [neverGuards, hu, hr, Bool.and_true, Bool.and_eq_true, bne_iff_ne]
  exact ⟨ne_of_isOrdinary hordinary rfl, ne_of_isOrdinary hordinary rfl⟩

section

variable {read : Reader α} {write : α → Text} {look : Reader β}

/--
After a pass there is no term of a kind that is looked for, if none begins where nothing was written, none begins in what is written, and none right after it. The condition that holds before each piece is kept from piece to piece.
-/
theorem hasNoTerm_rewrite (condition : Option Char → Text → Prop)
    (hguarded : ∀ b c cs n, guardedExtent? c cs = some n → condition b (c :: cs) →
      condition (some (lastOf c (cs.take n))) (cs.drop n))
    (hterm : ∀ b c cs n meaning, guardedExtent? c cs = none → read b c cs = some (n, meaning) → condition b (c :: cs) →
      condition (some (lastOf c (cs.take n))) (cs.drop n))
    (hplain : ∀ b c cs, guardedExtent? c cs = none → read b c cs = none → condition b (c :: cs) →
      condition (some c) cs ∧ look b c (rewrite write (ofText read (some c) cs)) = none)
    (hwritten : ∀ b c cs n meaning rest, read b c cs = some (n, meaning) →
      ∀ x d y, write meaning = x ++ d :: y → look (x.getLast?.or b) d (y ++ rest) = none)
    (hafter : ∀ meaning d, (write meaning).getLast? = some d → Blocks look d)
    {before : Option Char} {s : Text} (hs : condition before s)
    (hpieces : ∀ p ∈ ofText read before s, p.IsOrdinary write) {shown : Option Char}
    (hshown : shown = before ∨ ∃ d, shown = some d ∧ Blocks look d) :
    HasNoTerm look shown (rewrite write (ofText read before s)) := by
  induction before, s using ofText.induct read generalizing shown with
  | case1 before =>
    rw [ofText_nil]
    exact hasNoTerm_nil look shown
  | case2 before c cs n hextent ih =>
    rw [ofText_guarded hextent] at hpieces ⊢
    have hlength := guardedExtent?_le_length hextent
    rw [rewrite_guarded, List.cons_append, hasNoTerm_guarded (guardedExtent?_append hextent _),
      List.take_append_of_le_length (by simp [hlength]), List.take_take, Nat.min_self,
      List.drop_append_of_le_length (by simp [hlength]), List.drop_take_self, List.nil_append]
    exact ih (hguarded _ _ _ _ hextent hs) (fun p hp => hpieces p (List.mem_cons_of_mem _ hp)) (.inl rfl)
  | case3 before c cs hextent n meaning hread ih =>
    rw [ofText_term hextent hread] at hpieces ⊢
    obtain ⟨-, hne, hinert⟩ := hpieces _ List.mem_cons_self
    obtain ⟨d, hd⟩ : ∃ d, (write meaning).getLast? = some d := Option.isSome_iff_exists.mp (by simpa using hne)
    rw [rewrite_term]
    have hrest := ih (hterm _ _ _ _ _ hextent hread hs) (fun p hp => hpieces p (List.mem_cons_of_mem _ hp))
      (.inr ⟨d, rfl, hafter meaning d hd⟩)
    refine hasNoTerm_append (fun x e y hsplit => guardedExtent?_eq_none (neverGuards_of_isInert (hinert e (by simp [hsplit]))) _)
      (fun x e y hsplit => ?_) (by rwa [hd])
    rcases hshown with rfl | ⟨b, rfl, hb⟩
    · exact hwritten _ _ _ _ _ _ hread _ _ _ hsplit
    · cases x with
      | nil => exact hb e _
      | cons f x =>
        have hlater := hwritten before c cs n meaning (rewrite write (ofText read (some (lastOf c (cs.take n))) (cs.drop n)))
          hread (f :: x) e y hsplit
        rwa [getLast?_cons_or] at hlater ⊢
  | case4 before c cs hextent hread ih =>
    rw [ofText_plain hextent hread] at hpieces ⊢
    have hrestPieces := fun p hp => hpieces p (List.mem_cons_of_mem _ hp)
    obtain ⟨hrest, hlook⟩ := hplain _ _ _ hextent hread hs
    rw [rewrite_plain, hasNoTerm_plain (guardedExtent?_of_recast (recast_rewrite _ _ hrestPieces) hextent)]
    refine ⟨?_, ih hrest hrestPieces (.inl rfl)⟩
    rcases hshown with rfl | ⟨d, rfl, hd⟩
    · exact hlook
    · exact hd _ _

end

end Piece

end UiToolkit
