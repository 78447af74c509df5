import UiToolkit.Proofs.Attempt
import UiToolkit.Proofs.Delimiters
import UiToolkit.Uss.Value

/-!
# What the passes do to the text of a value

A pass leaves the text alone but for its terms. The terms of all passes are runs of ordinary characters, and so is what is written for them; hence no pass changes what stands outside quotes.
-/

namespace UiToolkit

namespace Piece

open Declaration Text

variable {α : Type}

section

variable (write : α → Text) (pieces : List (Piece α))

@[simp] theorem rewrite_nil : rewrite write [] = [] := rfl

@[simp] theorem rewrite_guarded (span : Text) : rewrite write (.guarded span :: pieces) = span ++ rewrite write pieces := rfl

@[simp] theorem rewrite_term (text : Text) (meaning : α) :
    rewrite write (.term text meaning :: pieces) = write meaning ++ rewrite write pieces := rfl

@[simp] theorem rewrite_plain (c : Char) : rewrite write (.plain c :: pieces) = c :: rewrite write pieces := rfl

end

section

variable {read : Reader α} {before : Option Char} {c : Char} {cs : Text} {n : Nat}

@[simp] theorem ofText_nil : ofText read before [] = [] := by rw [ofText.eq_def]

theorem ofText_guarded (hguarded : guardedExtent? c cs = some n) : ofText read before (c :: cs) =
    .guarded (c :: cs.take n) :: ofText read (some (lastOf c (cs.take n))) (cs.drop n) := by
  rw [ofText.eq_def]
  simp only [hguarded]

theorem ofText_term {meaning : α} (hguarded : guardedExtent? c cs = none) (hread : read before c cs = some (n, meaning)) :
    ofText read before (c :: cs) =
      .term (c :: cs.take n) meaning :: ofText read (some (lastOf c (cs.take n))) (cs.drop n) := by
  rw [ofText.eq_def]
  simp only [hguarded, hread]

theorem ofText_plain (hguarded : guardedExtent? c cs = none) (hread : read before c cs = none) :
    ofText read before (c :: cs) = .plain c :: ofText read (some c) cs := by
  rw [ofText.eq_def]
  simp only [hguarded, hread]

end

theorem flatMap_source_ofText (read : Reader α) (before : Option Char) (s : Text) :
    (ofText read before s).flatMap source = s := by
  induction before, s using ofText.induct read with
  | case1 before => rw [ofText_nil, List.flatMap_nil]
  | case2 before c cs n hguarded ih =>
    rw [ofText_guarded hguarded]
    simp only [List.flatMap_cons, source, ih, List.cons_append, List.take_append_drop]
  | case3 before c cs hguarded n meaning hread ih =>
    rw [ofText_term hguarded hread]
    simp only [List.flatMap_cons, source, ih, List.cons_append, List.take_append_drop]
  | case4 before c cs hguarded hread ih =>
    rw [ofText_plain hguarded hread]
    simp only [List.flatMap_cons, source, ih, List.singleton_append]

theorem exists_read_of_mem_ofText {read : Reader α} {before : Option Char} {s text : Text} {meaning : α}
    (h : .term text meaning ∈ ofText read before s) :
    ∃ b c cs n, read b c cs = some (n, meaning) ∧ text = c :: cs.take n := by
  induction before, s using ofText.induct read with
  | case1 before => simp at h
  | case2 before c cs n hguarded ih =>
    rw [ofText_guarded hguarded] at h
    simp only [List.mem_cons, reduceCtorEq, false_or] at h
    exact ih h
  | case3 before c cs hguarded n m hread ih =>
    rw [ofText_term hguarded hread] at h
    rcases List.mem_cons.mp h with heq | hrest
    · cases heq
      exact ⟨before, c, cs, n, hread, rfl⟩
    · exact ih hrest
  | case4 before c cs hguarded hread ih =>
    rw [ofText_plain hguarded hread] at h
    simp only [List.mem_cons, reduceCtorEq, false_or] at h
    exact ih h

/-- A term that is a run of ordinary characters, and is written as one of inert characters. -/
def IsOrdinary (write : α → Text) : Piece α → Prop
  | .term text meaning => IsRun isOrdinary text ∧ IsRun isInert (write meaning)
  | _ => True

/-- What is kept by characters that stay and by terms that are written holds of a text and its rewriting. -/
theorem rewrite_induction {write : α → Text} {motive : Text → Text → Prop} {pieces : List (Piece α)} (nil : motive [] [])
    (same : ∀ c {s t : Text}, motive s t → motive (c :: s) (c :: t))
    (term : ∀ {text : Text} {meaning : α} {s t : Text}, .term text meaning ∈ pieces → motive s t →
      motive (text ++ s) (write meaning ++ t)) :
    motive (pieces.flatMap source) (rewrite write pieces) := by
  have hspan : ∀ (span : Text) {s t : Text}, motive s t → motive (span ++ s) (span ++ t) := by
    intro span s t h
    induction span with
    | nil => exact h
    | cons c span ih => exact same c ih
  induction pieces with
  | nil => exact nil
  | cons p pieces ih =>
    have hrest := ih fun hmem => term (List.mem_cons_of_mem p hmem)
    rw [List.flatMap_cons]
    cases p with
    | guarded span => exact hspan span hrest
    | term text meaning => exact term List.mem_cons_self hrest
    | plain c => exact same c hrest

/-- A pass puts what it writes for the terms in their place. -/
theorem replaced_rewrite {read : Reader α} {write : α → Text} {P Q : Text → Prop} (before : Option Char) (value : Text)
    (h : ∀ text meaning, .term text meaning ∈ ofText read before value → P text ∧ Q (write meaning)) :
    Replaced P Q value (rewrite write (ofText read before value)) := by
  have hreplaced : Replaced P Q ((ofText read before value).flatMap source) (rewrite write (ofText read before value)) :=
    rewrite_induction .nil (fun c _ _ => .same c) fun hterm hrest => .run (h _ _ hterm).1 (h _ _ hterm).2 hrest
  rwa [flatMap_source_ofText] at hreplaced

theorem recast_rewrite {read : Reader α} {write : α → Text} (before : Option Char) (value : Text)
    (h : ∀ p ∈ ofText read before value, p.IsOrdinary write) : Recast value (rewrite write (ofText read before value)) :=
  replaced_rewrite before value fun _ _ hterm => h _ hterm

end Piece

namespace Numeral

open Text

def isNumeralChar (c : Char) : Bool := isSign c || isDecimal c || c == '.'

theorem mem_take_digitExtent {s : Text} {c : Char} (hc : c ∈ s.take (digitExtent s)) : isDecimal c = true := by
  rw [digitExtent, ← List.prefix_iff_eq_take.mp (List.takeWhile_prefix _)] at hc
  exact List.mem_takeWhile_imp hc

theorem mem_take_unsignedExtent {s : Text} {n : Nat} (h : unsignedExtent? s = some n) {c : Char} (hc : c ∈ s.take n) :
    isDecimal c = true ∨ c = '.' := by
  unfold unsignedExtent? at h
  simp only at h
  split at h
  · rename_i rest hrest
    split at h
    · cases h
    · cases h
      rw [Nat.add_assoc, List.take_add, hrest, Nat.add_comm 1, List.take_succ_cons] at hc
      rcases List.mem_append.mp hc with hc | hc
      · exact .inl (mem_take_digitExtent hc)
      · rcases List.mem_cons.mp hc with rfl | hc
        · exact .inr rfl
        · exact .inl (mem_take_digitExtent hc)
  · split at h
    · cases h
    · cases h
      exact .inl (mem_take_digitExtent hc)

theorem isNumeralChar_of_mem_take {s : Text} {n : Nat} (h : extent? s = some n) {c : Char} (hc : c ∈ s.take n) :
    isNumeralChar c = true := by
  have hunsigned : ∀ {t : Text} {m : Nat}, unsignedExtent? t = some m → c ∈ t.take m → isNumeralChar c = true := by
    intro t m ht hmem
    rcases mem_take_unsignedExtent ht hmem with hc | rfl
    · simp [isNumeralChar, hc]
    · rfl
  cases s with
  | nil => cases h
  | cons d cs =>
    rw [extent?] at h
    split at h
    · rename_i hsign
      obtain ⟨m, hm, rfl⟩ := Option.map_eq_some_iff.mp h
      rcases List.mem_cons.mp hc with rfl | hc
      · simp [isNumeralChar, hsign]
      · exact hunsigned hm hc
    · exact hunsigned h hc

end Numeral

namespace Pixels

open Attempt Declaration Text

/-- What a relative length is written as; no pass comes to write one with too many digits. -/
def emText (numeral : Text) : Text := (ofEm numeral).toOption.getD "0px"

theorem emText_eq_of_ofEm {numeral text : Text} (h : ofEm numeral = .ok text) : emText numeral = text := by
  rw [emText, h]
  rfl

/-- The converted text is the value with its relative lengths rewritten. -/
theorem eq_rewrite_of_convertEms {value text : Text} (h : convertEms value = .ok text) :
    text = Piece.rewrite emText (Piece.scan readEm value) ∧
      ∀ source numeral, .term source numeral ∈ Piece.scan readEm value → ∃ px, ofEm numeral = .ok px := by
  rw [convertEms] at h
  obtain ⟨parts, hparts, hflatten⟩ := bind_eq_ok.mp h
  cases return_eq_ok.mp hflatten
  constructor
  · rw [Piece.rewrite, flatMap_of_forall₂ (mapM_eq_ok.mp hparts) (g := id) fun p part hpart => ?_, List.flatMap_id]
    cases p with
    | guarded span => exact Except.ok.inj hpart
    | term source numeral => exact emText_eq_of_ofEm hpart
    | plain c => exact Except.ok.inj hpart
  · intro source numeral hterm
    exact succeeds_mapM.mp (.of_eq_ok hparts) _ hterm

theorem exists_emText_eq (numeral : Text) : ∃ i, emText numeral = Text.ofInt i ++ "px" := by
  unfold emText
  cases h : ofEm numeral with
  | error e => exact ⟨0, rfl⟩
  | ok text =>
    obtain ⟨i, -, heq⟩ := bind_eq_ok.mp h
    exact ⟨i, (return_eq_ok.mp heq).symm⟩

theorem isInert_ofPixels {i : Int} {c : Char} (h : c ∈ Text.ofInt i ++ "px".toList) : isInert c = true := by
  rcases List.mem_append.mp h with h | h
  · rcases mem_ofInt h with hc | rfl
    · exact isInert_of_isDigit hc
    · rfl
  · exact (by decide : ∀ d ∈ "px".toList, isInert d = true) c h

theorem isInert_of_mem_emText {numeral : Text} {c : Char} (h : c ∈ emText numeral) : isInert c = true := by
  obtain ⟨i, hi⟩ := exists_emText_eq numeral
  exact isInert_ofPixels (hi ▸ h)

theorem mem_take_of_startsWithAnyCase {word s : Text} (h : startsWithAnyCase word s = true) {c : Char}
    (hc : c ∈ s.take word.length) : ∃ letter ∈ word, isLetterAnyCase letter c = true := by
  induction word generalizing s with
  | nil => cases hc
  | cons letter word ih =>
    cases s with
    | nil => cases hc
    | cons d s =>
      obtain ⟨hd, hrest⟩ := Bool.and_eq_true_iff.mp h
      rcases List.mem_cons.mp hc with rfl | hc
      · exact ⟨letter, List.mem_cons_self, hd⟩
      · obtain ⟨l, hl, hcase⟩ := ih hrest hc
        exact ⟨l, List.mem_cons_of_mem _ hl, hcase⟩

theorem isLetter_of_mem_take_emExtent {s : Text} {n : Nat} (h : emExtent? s = some n) {c : Char} (hc : c ∈ s.take n) :
    ∃ letter ∈ "rem".toList, isLetterAnyCase letter c = true := by
  unfold emExtent? at h
  split at h
  · rename_i hrem
    cases h
    exact mem_take_of_startsWithAnyCase (Bool.and_eq_true_iff.mp hrem).1 hc
  · split at h
    · rename_i hem
      cases h
      obtain ⟨letter, hletter, hcase⟩ := mem_take_of_startsWithAnyCase (Bool.and_eq_true_iff.mp hem).1 hc
      exact ⟨letter, List.mem_cons_of_mem 'r' hletter, hcase⟩
    · cases h

theorem readEm_eq_some {before : Option Char} {c : Char} {cs : Text} {extent : Nat} {numeral : Text}
    (h : readEm before c cs = some (extent, numeral)) :
    ∃ n unit, before.any continuesTerm = false ∧ Numeral.extent? (c :: cs) = some n ∧
      emExtent? ((c :: cs).drop n) = some unit ∧ extent + 1 = n + unit ∧ numeral = (c :: cs).take n := by
  unfold readEm at h
  split at h
  · cases h
  · rename_i hbefore
    obtain ⟨n, hn, h⟩ := Option.bind_eq_some_iff.mp h
    obtain ⟨unit, hunit, h⟩ := Option.bind_eq_some_iff.mp h
    cases h
    have hpos : 0 < unit := by
      unfold emExtent? at hunit
      split at hunit
      · cases hunit
        omega
      · split at hunit
        · cases hunit
          omega
        · cases hunit
    exact ⟨n, unit, Bool.not_eq_true _ ▸ hbefore, hn, hunit, by omega, rfl⟩

/-- A relative length consists of a numeral and the letters of a unit. -/
theorem mem_of_readEm {before : Option Char} {c : Char} {cs : Text} {extent : Nat} {numeral : Text}
    (h : readEm before c cs = some (extent, numeral)) {d : Char} (hd : d ∈ c :: cs.take extent) :
    Numeral.isNumeralChar d = true ∨ ∃ letter ∈ "rem".toList, isLetterAnyCase letter d = true := by
  obtain ⟨n, unit, -, hn, hunit, hextent, -⟩ := readEm_eq_some h
  rw [← List.take_succ_cons, hextent, List.take_add] at hd
  rcases List.mem_append.mp hd with hd | hd
  · exact .inl (Numeral.isNumeralChar_of_mem_take hn hd)
  · exact .inr (isLetter_of_mem_take_emExtent hunit hd)

theorem isOrdinary_of_readEm {before : Option Char} {c : Char} {cs : Text} {extent : Nat} {numeral : Text}
    (h : readEm before c cs = some (extent, numeral)) {d : Char} (hd : d ∈ c :: cs.take extent) : isOrdinary d = true := by
  rcases mem_of_readEm h hd with hnumeral | ⟨letter, hletter, hcase⟩
  · exact isOrdinary_of (by decide) hnumeral
  · have hnone : ∀ letter ∈ "rem".toList, ∀ d ∈ significant, isLetterAnyCase letter d = false := by decide
    exact isOrdinary_of (hnone letter hletter) hcase

theorem isOrdinary_of_mem_ofText (before : Option Char) (value : Text) :
    ∀ p ∈ Piece.ofText readEm before value, p.IsOrdinary emText := by
  intro p hp
  cases p with
  | guarded span => trivial
  | plain c => trivial
  | term source numeral =>
    obtain ⟨i, hi⟩ := exists_emText_eq numeral
    obtain ⟨before, c, cs, extent, hread, rfl⟩ := Piece.exists_read_of_mem_ofText hp
    exact ⟨⟨List.cons_ne_nil _ _, fun d hd => isOrdinary_of_readEm hread hd⟩,
      by simp [hi], fun d hd => isInert_of_mem_emText hd⟩

theorem recast_convertEms {value text : Text} (h : convertEms value = .ok text) : Recast value text := by
  obtain ⟨rfl, -⟩ := eq_rewrite_of_convertEms h
  exact Piece.recast_rewrite none value (isOrdinary_of_mem_ofText none value)

end Pixels

namespace Value

open Attempt Declaration Text

theorem readLeadingPoint_eq_some {before : Option Char} {c : Char} {cs : Text} {n : Nat}
    (h : readLeadingPoint before c cs = some (n, ())) :
    n = 0 ∧ c = '.' ∧ before.all opensNumber = true ∧ cs.head?.any isDecimal = true := by
  unfold readLeadingPoint at h
  split at h
  · rename_i hcondition
    simp only [Bool.and_eq_true, beq_iff_eq] at hcondition
    cases h
    exact ⟨rfl, hcondition.1.1, hcondition.1.2, hcondition.2⟩
  · cases h

theorem readViewport_eq_some {before : Option Char} {c : Char} {cs : Text} {n : Nat}
    (h : readViewport before c cs = some (n, ())) :
    n = 1 ∧ before.any isDecimal = true ∧ c.toLower = 'v' ∧
      ∃ d rest, cs = d :: rest ∧ (d.toLower = 'w' ∨ d.toLower = 'h') ∧ Pixels.endsWord rest = true := by
  unfold readViewport at h
  split at h
  · rename_i d rest
    split at h
    · rename_i hcondition
      simp only [Bool.and_eq_true, Bool.or_eq_true, beq_iff_eq] at hcondition
      cases h
      exact ⟨rfl, hcondition.1.1.1, hcondition.1.1.2, d, rest, rfl, hcondition.1.2, hcondition.2⟩
    · cases h
  · cases h

theorem eq_of_leadingPoint {before : Option Char} {value text : Text} {meaning : Unit}
    (h : .term text meaning ∈ Piece.ofText readLeadingPoint before value) : text = ".".toList := by
  obtain ⟨before, c, cs, n, hread, rfl⟩ := Piece.exists_read_of_mem_ofText h
  obtain ⟨rfl, rfl, -, -⟩ := readLeadingPoint_eq_some hread
  rfl

def isViewportLetter (c : Char) : Bool := c.toLower == 'v' || c.toLower == 'w' || c.toLower == 'h'

theorem isRun_of_viewport {before : Option Char} {value text : Text} {meaning : Unit}
    (h : .term text meaning ∈ Piece.ofText readViewport before value) : IsRun isViewportLetter text := by
  obtain ⟨before, c, cs, n, hread, rfl⟩ := Piece.exists_read_of_mem_ofText h
  obtain ⟨rfl, -, hc, d, rest, rfl, hd, -⟩ := readViewport_eq_some hread
  refine ⟨List.cons_ne_nil _ _, fun x hx => ?_⟩
  simp only [List.take_succ_cons, List.take_zero, List.mem_cons, List.not_mem_nil, or_false] at hx
  rcases hx with rfl | rfl
  · simp [isViewportLetter, hc]
  · rcases hd with hd | hd <;> simp [isViewportLetter, hd]

theorem isOrdinary_leadingPoint (before : Option Char) (value : Text) :
    ∀ p ∈ Piece.ofText readLeadingPoint before value, p.IsOrdinary fun _ => "0." := by
  intro p hp
  cases p with
  | guarded span => trivial
  | plain c => trivial
  | term text _ =>
    obtain rfl := eq_of_leadingPoint hp
    exact ⟨⟨List.cons_ne_nil _ _, by decide⟩, List.cons_ne_nil _ _, (by decide : ∀ c ∈ "0.".toList, isInert c = true)⟩

theorem isOrdinary_viewport (before : Option Char) (value : Text) :
    ∀ p ∈ Piece.ofText readViewport before value, p.IsOrdinary fun _ => "%" := by
  intro p hp
  cases p with
  | guarded span => trivial
  | plain c => trivial
  | term text _ =>
    exact ⟨(isRun_of_viewport hp).mono (isOrdinary_of (by decide)),
      List.cons_ne_nil _ _, (by decide : ∀ c ∈ "%".toList, isInert c = true)⟩

theorem recast_fillLeadingPoints (value : Text) : Recast value (fillLeadingPoints value) :=
  Piece.recast_rewrite none value (isOrdinary_leadingPoint none value)

theorem recast_viewportToPercent (value : Text) : Recast value (viewportToPercent value) :=
  Piece.recast_rewrite none value (isOrdinary_viewport none value)

theorem breaksOut_normalize (value : Text) : breaksOut (normalize value) = breaksOut value :=
  ((recast_fillLeadingPoints value).breaksOut.trans (recast_viewportToPercent _).breaksOut).symm

end Value

end UiToolkit
