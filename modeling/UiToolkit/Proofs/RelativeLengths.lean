import UiToolkit.Proofs.Passes

/-!
# Relative lengths are converted once and for all

Where a numeral and its unit end can be told from their characters and the next one. So a relative length that is found after the conversion would have been found before, and there is none; nor does the conversion bring back a term of the earlier passes.
-/

namespace UiToolkit

open Attempt Declaration Text Piece Value

namespace Numeral

theorem digitExtent_append {x y : Text} (h : digitExtent (x ++ y) < x.length) (z : Text) :
    digitExtent (x ++ z) = digitExtent (x ++ y) := by
  have hshort : (x.takeWhile isDecimal).length ≠ x.length := by
    intro heq
    rw [digitExtent, List.takeWhile_append, if_pos heq, List.length_append] at h
    omega
  rw [digitExtent, digitExtent, List.takeWhile_append, List.takeWhile_append, if_neg hshort, if_neg hshort]

theorem unsignedExtent?_append {x y : Text} {n : Nat} (h : unsignedExtent? (x ++ y) = some n) (hn : n < x.length) (z : Text) :
    unsignedExtent? (x ++ z) = some n := by
  have hwhole : digitExtent (x ++ y) < x.length := by
    unfold unsignedExtent? at h
    simp only at h
    split at h
    · split at h
      · cases h
      · cases h
        omega
    · split at h
      · cases h
      · cases h
        omega
  obtain ⟨e, xs, hx⟩ : ∃ e xs, x.drop (digitExtent (x ++ y)) = e :: xs :=
    List.exists_cons_of_ne_nil (by simpa [List.drop_eq_nil_iff] using hwhole)
  have hlength : xs.length + 1 + digitExtent (x ++ y) = x.length := by
    have := congrArg List.length hx
    rw [List.length_drop, List.length_cons] at this
    omega
  have hdrop : ∀ w, (x ++ w).drop (digitExtent (x ++ y)) = e :: (xs ++ w) := by
    intro w
    rw [List.drop_append_of_le_length (le_of_lt hwhole), hx, List.cons_append]
  unfold unsignedExtent? at h ⊢
  simp only [digitExtent_append hwhole z, hdrop] at h ⊢
  by_cases he : e = '.'
  · subst he
    simp only at h ⊢
    have hfraction : digitExtent (xs ++ y) < xs.length := by
      split at h
      · cases h
      · cases h
        omega
    rw [digitExtent_append hfraction z]
    exact h
  · split at h
    · rename_i heq
      cases heq
      exact absurd rfl he
    · split
      · rename_i heq
        cases heq
        exact absurd rfl he
      · exact h

theorem extent?_append {x y : Text} {n : Nat} (h : extent? (x ++ y) = some n) (hn : n < x.length) (z : Text) :
    extent? (x ++ z) = some n := by
  cases x with
  | nil => simp at hn
  | cons c x =>
    rw [List.cons_append, extent?] at h ⊢
    split
    · rename_i hsign
      rw [if_pos hsign] at h
      obtain ⟨m, hm, rfl⟩ := Option.map_eq_some_iff.mp h
      rw [unsignedExtent?_append hm (by simpa using hn) z]
      rfl
    · rename_i hsign
      rw [if_neg hsign] at h
      exact unsignedExtent?_append (x := c :: x) h hn z

theorem pos_of_unsignedExtent? {s : Text} {n : Nat} (h : unsignedExtent? s = some n) : 0 < n := by
  unfold unsignedExtent? at h
  simp only at h
  split at h
  · split at h
    · cases h
    · cases h
      omega
  · split at h
    · cases h
    · cases h
      omega

/-- After the first character a numeral holds digits and a point only. -/
theorem mem_tail_of_extent? {c : Char} {cs : Text} {n : Nat} (h : extent? (c :: cs) = some n) :
    (isSign c = true ∧ unsignedExtent? cs = some (n - 1) ∧ 1 < n ∨ isDecimal c = true ∨ c = '.') ∧ 0 < n ∧
      ∀ d ∈ cs.take (n - 1), isDecimal d = true ∨ d = '.' := by
  rw [extent?] at h
  split at h
  · rename_i hsign
    obtain ⟨m, hm, rfl⟩ := Option.map_eq_some_iff.mp h
    have := pos_of_unsignedExtent? hm
    exact ⟨.inl ⟨hsign, hm, by omega⟩, by omega, fun d hd => mem_take_unsignedExtent hm hd⟩
  · have hpos := pos_of_unsignedExtent? h
    obtain ⟨m, rfl⟩ : ∃ m, n = m + 1 := ⟨n - 1, by omega⟩
    have hall := fun d (hd : d ∈ (c :: cs).take (m + 1)) => mem_take_unsignedExtent h hd
    rw [List.take_succ_cons] at hall
    exact ⟨.inr (hall c List.mem_cons_self), hpos, fun d hd => hall d (List.mem_cons_of_mem _ hd)⟩

theorem digitExtent_digits {digits : Text} (hdigits : ∀ c ∈ digits, c.isDigit = true) (rest : Text) :
    digitExtent (digits ++ 'p' :: rest) = digits.length := by
  rw [digitExtent, List.takeWhile_append_of_pos fun c hc => isDecimal_of_isDigit (hdigits c hc)]
  simp [show isDecimal 'p' = false from rfl]

theorem unsignedExtent?_digits {digits : Text} (hdigits : ∀ c ∈ digits, c.isDigit = true) {rest : Text} {n : Nat}
    (h : unsignedExtent? (digits ++ 'p' :: rest) = some n) : n = digits.length := by
  unfold unsignedExtent? at h
  simp only [digitExtent_digits hdigits, List.drop_left] at h
  split at h
  · rename_i heq
    cases heq
  · split at h
    · cases h
    · exact (Option.some.inj h).symm

end Numeral

namespace Pixels

theorem isLetterAnyCase_iff {letter c : Char} (h : letter ≠ 'i' ∧ letter ≠ 's' ∧ letter ≠ 'k') :
    isLetterAnyCase letter c = true ↔ c.toLower = letter := by
  simp [isLetterAnyCase, h]

theorem emExtent?_append {unit y z : Text} (h : emExtent? (unit ++ y) = some unit.length) (hends : endsWord y = endsWord z) :
    emExtent? (unit ++ z) = some unit.length := by
  unfold emExtent? at h
  split at h
  · rename_i hrem
    obtain ⟨hstarts, hends'⟩ := Bool.and_eq_true_iff.mp hrem
    have hlength : unit.length = 3 := (Option.some.inj h).symm
    rw [← hlength, List.drop_left, hends] at hends'
    have hkept := startsWithAnyCase_append hstarts (n := unit.length) (by rw [hlength]; exact Nat.le_refl 3) z
    rw [List.take_left] at hkept
    rw [emExtent?, ← hlength, List.drop_left, hkept, hends']
    rfl
  · split at h
    · rename_i hem
      obtain ⟨hstarts, hends'⟩ := Bool.and_eq_true_iff.mp hem
      have hlength : unit.length = 2 := (Option.some.inj h).symm
      rw [← hlength, List.drop_left, hends] at hends'
      have hkept := startsWithAnyCase_append hstarts (n := unit.length) (by rw [hlength]; exact Nat.le_refl 2) z
      rw [List.take_left] at hkept
      obtain ⟨c, cs, rfl⟩ : ∃ c cs, unit = c :: cs := List.exists_cons_of_ne_nil (by rintro rfl; cases hlength)
      have hc : c.toLower = 'e' := (isLetterAnyCase_iff (by decide)).mp (Bool.and_eq_true_iff.mp hkept).1
      have hrem : startsWithAnyCase "rem" ((c :: cs) ++ z) = false := by
        change (isLetterAnyCase 'r' c && _) = false
        simp [isLetterAnyCase, hc]
      rw [emExtent?, hrem, ← hlength, List.drop_left, hkept, hends']
      rfl
    · cases h

theorem neverGuards_of_numeral {c : Char} (hc : isDecimal c = true ∨ c = '.') : neverGuards c = true :=
  neverGuards_of (p := fun d => isDecimal d || d == '.') (by decide) (by simpa using hc)

theorem continuesTerm_of_numeral {c : Char} (hc : isDecimal c = true ∨ c = '.') : continuesTerm c = true := by
  rcases hc with hc | rfl
  · simp [continuesTerm, isWordChar_of_isDecimal hc]
  · rfl

theorem continuesTerm_of_unit {c : Char} (hc : c.toLower ∈ "vwhemr".toList) : continuesTerm c = true := by
  simp [continuesTerm, (unitLetter_of_toLower hc).2]

theorem neverGuards_of_unit {c : Char} (hc : c.toLower = 'e' ∨ c.toLower = 'm') : neverGuards c = true :=
  neverGuards_of (p := fun d => d.toLower == 'e' || d.toLower == 'm') (by decide) (by simpa using hc)

theorem opensSpan_rem {a b c : Char} (ha : a.toLower = 'r') (hc : c.toLower = 'm') (rest : Text) :
    opensSpan a (b :: c :: rest) = false := by
  have hresource : startsWithAnyCase ("resource".toList ++ ['(']) (a :: b :: c :: rest) = false := by
    change (isLetterAnyCase 'r' a && (isLetterAnyCase 'e' b && (isLetterAnyCase 's' c && _))) = false
    have hs : isLetterAnyCase 's' c = false := by
      have hlong : c ≠ 'ſ' := by
        rintro rfl
        exact absurd hc (by decide)
      simp [isLetterAnyCase, hc, hlong]
    simp [hs]
  have hu : isLetterAnyCase 'u' a = false := by simp [isLetterAnyCase, ha]
  have hquote : ∀ d : Char, d.toLower ≠ 'r' → a ≠ d := by
    rintro d hd rfl
    exact hd ha
  rw [opensSpan, hresource, beq_false_of_ne (hquote '"' (by decide)), beq_false_of_ne (hquote '\'' (by decide))]
  simp [startsWithAnyCase, hu]

/-- The characters of a unit are letters, and begin no guarded span where the unit stands. -/
theorem unit_of_emExtent {s : Text} {n : Nat} (h : emExtent? s = some n) :
    n ≤ s.length ∧ 2 ≤ n ∧ (∀ c ∈ s.take n, c.toLower ∈ "vwhemr".toList) ∧
      ∀ x c y, s.take n = x ++ c :: y → opensSpan c (y ++ s.drop n) = false := by
  have hem : ∀ a b : Char, startsWithAnyCase "em" [a, b] = true → a.toLower = 'e' ∧ b.toLower = 'm' := by
    intro a b hstarts
    change startsWithAnyCase ['e', 'm'] [a, b] = true at hstarts
    obtain ⟨ha, hb⟩ := Bool.and_eq_true_iff.mp hstarts
    exact ⟨(isLetterAnyCase_iff (by decide)).mp ha, (isLetterAnyCase_iff (by decide)).mp (Bool.and_eq_true_iff.mp hb).1⟩
  have hsplit : ∀ word : Text, startsWithAnyCase word s = true →
      word.length ≤ s.length ∧ startsWithAnyCase word (s.take word.length) = true := by
    intro word hstarts
    have hkept := startsWithAnyCase_append hstarts (Nat.le_refl word.length) []
    exact ⟨length_le_of_startsWithAnyCase hstarts, by rwa [List.append_nil] at hkept⟩
  unfold emExtent? at h
  split at h
  · rename_i hrem
    cases h
    obtain ⟨hlength, hkept⟩ := hsplit "rem" (Bool.and_eq_true_iff.mp hrem).1
    obtain ⟨a, b, c, hword⟩ := List.length_eq_three.mp (show (s.take 3).length = 3 by
      rw [List.length_take]
      exact Nat.min_eq_left hlength)
    change startsWithAnyCase ['r', 'e', 'm'] (s.take 3) = true at hkept
    rw [hword] at hkept ⊢
    obtain ⟨ha, hrest⟩ := Bool.and_eq_true_iff.mp hkept
    have ha := (isLetterAnyCase_iff (by decide)).mp ha
    obtain ⟨hb, hc⟩ := hem b c hrest
    refine ⟨hlength, by decide, by simp [ha, hb, hc], fun x d y hxy => ?_⟩
    rcases x with _ | ⟨_, _ | ⟨_, _ | ⟨_, x⟩⟩⟩
    · cases hxy
      exact opensSpan_rem ha hc _
    · cases hxy
      exact opensSpan_eq_false (neverGuards_of_unit (.inl hb)) _
    · cases hxy
      exact opensSpan_eq_false (neverGuards_of_unit (.inr hc)) _
    · simp at hxy
  · split at h
    · rename_i hstarts
      cases h
      obtain ⟨hlength, hkept⟩ := hsplit "em" (Bool.and_eq_true_iff.mp hstarts).1
      obtain ⟨a, b, hword⟩ := List.length_eq_two.mp (show (s.take 2).length = 2 by
        rw [List.length_take]
        exact Nat.min_eq_left hlength)
      change startsWithAnyCase "em" (s.take 2) = true at hkept
      rw [hword] at hkept ⊢
      obtain ⟨ha, hb⟩ := hem a b hkept
      refine ⟨hlength, by decide, by simp [ha, hb], fun x d y hxy => ?_⟩
      rcases x with _ | ⟨_, _ | ⟨_, x⟩⟩
      · cases hxy
        exact opensSpan_eq_false (neverGuards_of_unit (.inl ha)) _
      · cases hxy
        exact opensSpan_eq_false (neverGuards_of_unit (.inr hb)) _
      · simp at hxy
    · cases h

theorem readEm_congr {before : Option Char} {c : Char} {x y z : Text} {extent : Nat} {numeral : Text}
    (h : readEm before c (x ++ y) = some (extent, numeral)) (hx : x.length = extent) (hends : endsWord y = endsWord z) :
    (readEm before c (x ++ z)).isSome = true := by
  obtain ⟨n, unit, hbefore, hn, hunit, hextent, -⟩ := readEm_eq_some h
  obtain ⟨-, htwo, -, -⟩ := unit_of_emExtent hunit
  have hlength : n < (c :: x).length := by rw [List.length_cons]; omega
  have hn' : Numeral.extent? (c :: (x ++ z)) = some n := Numeral.extent?_append (x := c :: x) hn hlength z
  have hsize : ((c :: x).drop n).length = unit := by rw [List.length_drop, List.length_cons]; omega
  have hdrop : ∀ w, (c :: (x ++ w)).drop n = (c :: x).drop n ++ w := fun w => by
    rw [← List.cons_append, List.drop_append_of_le_length (le_of_lt hlength)]
  rw [hdrop, ← hsize] at hunit
  have hunit' := emExtent?_append hunit hends
  rw [hsize, ← hdrop] at hunit'
  simp [readEm, hbefore, hn', hunit']

/-- The rest of a numeral and its unit are found after the conversion only where they were before. -/
theorem eq_append_of_numeral {c : Char} (hc : continuesTerm c = true) {cs digits unit y : Text}
    (hdigits : ∀ d ∈ digits, isDecimal d = true ∨ d = '.') (hunit : emExtent? (unit ++ y) = some unit.length)
    (h : rewrite emText (ofText readEm (some c) cs) = digits ++ (unit ++ y)) :
    ∃ rest, cs = digits ++ (unit ++ rest) ∧ endsWord y = endsWord rest := by
  obtain ⟨-, htwo, hletters, hguards⟩ := unit_of_emExtent hunit
  rw [List.take_left] at hletters hguards
  rw [List.drop_left] at hguards
  obtain ⟨rest, rfl, hrest⟩ := eq_append_of_rewrite (blocks_em hc)
    (fun d hd => blocks_em (continuesTerm_of_numeral (hdigits d hd)))
    (fun u d v hsplit => guardedExtent?_eq_none (neverGuards_of_numeral (hdigits d (by simp [hsplit]))) _) h
  obtain ⟨last, hlast, hblocks⟩ : ∃ last, digits.getLast?.or (some c) = some last ∧ continuesTerm last = true := by
    cases hd : digits.getLast? with
    | none => exact ⟨c, rfl, hc⟩
    | some d => exact ⟨d, rfl, continuesTerm_of_numeral (hdigits d (List.mem_of_getLast? hd))⟩
  rw [hlast] at hrest
  obtain ⟨rest', rfl, hrest'⟩ := eq_append_of_rewrite (blocks_em hblocks)
    (fun d hd => blocks_em (continuesTerm_of_unit (hletters d hd)))
    (fun u d v hsplit => guardedExtent?_of_opensSpan (hguards u d v hsplit)) hrest.symm
  refine ⟨rest', rfl, ?_⟩
  obtain ⟨e, he⟩ : ∃ e, unit.getLast? = some e := Option.isSome_iff_exists.mp (by
    rw [List.getLast?_isSome]
    rintro rfl
    cases htwo)
  rw [he] at hrest'
  rw [hrest']
  exact endsWord_congr (head?_rewrite (blocks_em (continuesTerm_of_unit (hletters e (List.mem_of_getLast? he)))) rest')

theorem emExtent?_after_written {i : Int} {rest : Text} {n : Nat}
    (h : Numeral.unsignedExtent? (Text.ofInt i ++ "px" ++ rest) = some n) :
    emExtent? ((Text.ofInt i ++ "px" ++ rest).drop n) = none := by
  have hpx : emExtent? ('p' :: 'x' :: rest) = none := rfl
  cases i with
  | ofNat k =>
    rw [List.append_assoc] at h ⊢
    have hn := Numeral.unsignedExtent?_digits (fun c hc => isDigit_of_mem_ofNat hc) h
    rw [hn]
    change emExtent? ((Text.ofNat k ++ ('p' :: 'x' :: rest)).drop (Text.ofNat k).length) = none
    rw [List.drop_left, hpx]
  | negSucc k => cases h

/-- No relative length appears in the conversion. -/
theorem readEm_rewrite {before : Option Char} {c : Char} {cs : Text} (h : readEm before c cs = none) :
    readEm before c (rewrite emText (ofText readEm (some c) cs)) = none := by
  refine Option.eq_none_iff_forall_ne_some.mpr fun found hfound => ?_
  obtain ⟨extent, numeral⟩ := found
  obtain ⟨n, size, hbefore, hn, hsize, hextent, -⟩ := readEm_eq_some hfound
  obtain ⟨hlength, htwo, -, -⟩ := unit_of_emExtent hsize
  obtain ⟨hfirst, hpos, hdigits⟩ := Numeral.mem_tail_of_extent? hn
  generalize hout : rewrite emText (ofText readEm (some c) cs) = out at *
  obtain ⟨m, rfl⟩ : ∃ m, n = m + 1 := ⟨n - 1, by omega⟩
  rw [List.drop_succ_cons] at hsize hlength
  rw [Nat.add_sub_cancel] at hdigits
  -- the characters after the first: the rest of the numeral, the unit, and what follows them
  set digits := out.take m
  set unit := (out.drop m).take size
  set y := (out.drop m).drop size
  have hsplit : out = digits ++ (unit ++ y) := by
    rw [List.take_append_drop, List.take_append_drop]
  have hunitLength : unit.length = size := by
    rw [List.length_take]
    exact Nat.min_eq_left hlength
  have hunit : emExtent? (unit ++ y) = some unit.length := by
    rw [List.take_append_drop, hunitLength, hsize]
  have hdigitsLength : digits.length = m := by
    rw [List.length_take]
    rw [List.length_drop] at hlength
    omega
  have hconclude : ∀ rest, cs = digits ++ (unit ++ rest) → endsWord y = endsWord rest → False := by
    intro rest hcs hends
    rw [hsplit, ← List.append_assoc] at hfound
    have hsome := readEm_congr hfound (by rw [List.length_append]; omega) hends
    rw [List.append_assoc, ← hcs, h] at hsome
    cases hsome
  rcases hfirst with ⟨hsign, hunsigned, hlong⟩ | hnumeral
  · by_cases hminus : c = '-'
    · obtain ⟨rest, hcs, hends⟩ := eq_append_of_numeral (by rw [hminus]; rfl) hdigits hunit (hout.trans hsplit)
      exact hconclude rest hcs hends
    · -- a plus sign alone lets a term begin right after it
      obtain ⟨k, rfl⟩ : ∃ k, m = k + 1 := ⟨m - 1, by omega⟩
      have hdigitsEq : digits = out.take (k + 1) := rfl
      cases cs with
      | nil =>
        rw [ofText, rewrite_nil] at hout
        rw [← hout] at hdigitsEq
        rw [hdigitsEq] at hdigitsLength
        simp at hdigitsLength
      | cons e cs =>
        rw [ofText] at hout
        cases hguarded : guardedExtent? e cs with
        | some j =>
          simp only [hguarded, rewrite_guarded, List.cons_append] at hout
          have he := hdigits e (by rw [hdigitsEq, ← hout]; exact List.mem_cons_self)
          rw [guardedExtent?_eq_none (neverGuards_of_numeral he)] at hguarded
          cases hguarded
        | none =>
          cases hread : readEm (some c) e cs with
          | some found =>
            obtain ⟨j, written⟩ := found
            simp only [hguarded, hread, rewrite_term] at hout
            obtain ⟨i, hi⟩ := exists_emText_eq written
            rw [hi] at hout
            rw [← hout] at hunsigned hsize
            have hnone := emExtent?_after_written hunsigned
            rw [Nat.add_sub_cancel, hsize] at hnone
            cases hnone
          | none =>
            simp only [hguarded, hread, rewrite_plain] at hout
            have he := hdigits e (by rw [hdigitsEq, ← hout]; exact List.mem_cons_self)
            have hdigitsCons : digits = e :: digits.tail := by
              rw [hdigitsEq, ← hout]
              rfl
            rw [hdigitsCons, List.cons_append, ← hout, List.cons.injEq] at hsplit
            obtain ⟨rest, hcs, hends⟩ := eq_append_of_numeral (continuesTerm_of_numeral he)
              (fun d hd => hdigits d (List.mem_of_mem_tail hd)) hunit hsplit.2
            refine hconclude rest ?_ hends
            rw [hdigitsCons, hcs, List.cons_append]
  · obtain ⟨rest, hcs, hends⟩ := eq_append_of_numeral (continuesTerm_of_numeral hnumeral) hdigits hunit (hout.trans hsplit)
    exact hconclude rest hcs hends

/-! ### The converted text -/

/-- The characters of a length in pixels keep terms from beginning right after them, and begin none of the other passes. -/
theorem mem_emText {numeral : Text} {c : Char} (h : c ∈ emText numeral) :
    continuesTerm c = true ∧ c ≠ '.' ∧ c.toLower ≠ 'v' := by
  have hall : ∀ d : Char, d.toNat < 128 → (d.isDigit || "-px".toList.contains d) = true →
      (continuesTerm d && d != '.' && d.toLower != 'v') = true := by
    intro d hascii hd
    have := forall_ascii (p := fun e => !(e.isDigit || "-px".toList.contains e) ||
      (continuesTerm e && e != '.' && e.toLower != 'v')) (by decide) hascii
    rwa [hd] at this
  obtain ⟨i, hi⟩ := exists_emText_eq numeral
  rw [hi] at h
  have hclass : c.toNat < 128 ∧ (c.isDigit || "-px".toList.contains c) = true := by
    rcases List.mem_append.mp h with h | h
    · rcases mem_ofInt h with hdigit | rfl
      · exact ⟨toNat_lt_of_isDigit hdigit, by rw [hdigit]; rfl⟩
      · decide
    · exact (by decide : ∀ d ∈ "px".toList, d.toNat < 128 ∧ (d.isDigit || "-px".toList.contains d) = true) c h
  simpa [and_assoc] using hall c hclass.1 hclass.2

theorem readEm_written {before : Option Char} {i : Int} {c : Char} {y : Text} (h : Text.ofInt i ++ "px" = c :: y) (rest : Text) :
    readEm before c (y ++ rest) = none := by
  refine Option.eq_none_iff_forall_ne_some.mpr fun found hfound => ?_
  obtain ⟨extent, numeral⟩ := found
  obtain ⟨n, size, -, hn, hsize, -, -⟩ := readEm_eq_some hfound
  rw [Numeral.extent?] at hn
  split at hn
  · rename_i hsign
    obtain ⟨m, hm, rfl⟩ := Option.map_eq_some_iff.mp hn
    rw [List.drop_succ_cons] at hsize
    cases i with
    | ofNat k =>
      have hmem : c ∈ Text.ofNat k ++ "px".toList := by
        change Text.ofNat k ++ "px".toList = c :: y at h
        rw [h]
        exact List.mem_cons_self
      rcases List.mem_append.mp hmem with hc | hc
      · have hall := forall_ascii (p := fun d => !d.isDigit || !Numeral.isSign d) (by decide)
          (toNat_lt_of_isDigit (isDigit_of_mem_ofNat hc))
        simp [isDigit_of_mem_ofNat hc, hsign] at hall
      · exact absurd hsign ((by decide : ∀ d ∈ "px".toList, ¬Numeral.isSign d = true) c hc)
    | negSucc k =>
      obtain ⟨-, rfl⟩ := List.cons.inj h
      have hnone := emExtent?_after_written (i := .ofNat (k + 1)) hm
      exact absurd (hsize.symm.trans hnone) (by simp)
  · rw [← List.cons_append, ← h] at hn hsize
    exact absurd (hsize.symm.trans (emExtent?_after_written hn)) (by simp)

theorem opensSpan_of_readEm {before : Option Char} {c : Char} {cs : Text} {extent : Nat} {numeral : Text}
    (h : readEm before c cs = some (extent, numeral)) :
    ∀ x d y, c :: cs.take extent = x ++ d :: y → opensSpan d (y ++ cs.drop extent) = false := by
  intro x d y hsplit
  obtain ⟨n, size, -, hn, hsize, hextent, -⟩ := readEm_eq_some h
  obtain ⟨hlength, -, -, hguards⟩ := unit_of_emExtent hsize
  have hrest : cs.drop extent = ((c :: cs).drop n).drop size := by
    rw [List.drop_drop, ← hextent, List.drop_succ_cons]
  rw [← List.take_succ_cons, hextent, List.take_add] at hsplit
  rw [hrest]
  rcases List.append_eq_append_iff.mp hsplit with ⟨front, hx, hunit⟩ | ⟨front, hnumeral, hd⟩
  · exact hguards front d y hunit
  · cases front with
    | nil => exact hguards [] d y hd.symm
    | cons e front =>
      obtain ⟨rfl, -⟩ := List.cons.inj hd
      have hmem : d ∈ (c :: cs).take n := by simp [hnumeral]
      exact opensSpan_eq_false (neverGuards_of (by decide) (Numeral.isNumeralChar_of_mem_take hn hmem)) _

theorem hasNoTerm_em (s : Text) : HasNoTerm readEm none (rewrite emText (scan readEm s)) := by
  refine hasNoTerm_rewrite (fun _ _ => True) (fun _ _ _ _ _ _ => trivial) (fun _ _ _ _ _ _ _ _ => trivial)
    (fun b c cs _ hread _ => ⟨trivial, readEm_rewrite hread⟩) ?_ ?_ trivial (isOrdinary_of_mem_ofText none s) (.inl rfl)
  · intro b c cs n numeral rest _ x d y hsplit
    cases hx : x.getLast? with
    | none =>
      rw [List.getLast?_eq_none_iff.mp hx, List.nil_append] at hsplit
      obtain ⟨i, hi⟩ := exists_emText_eq numeral
      exact readEm_written (hi.symm.trans hsplit) rest
    | some e =>
      have he : e ∈ emText numeral := by
        rw [hsplit]
        exact List.mem_append_left _ (List.mem_of_getLast? hx)
      exact blocks_em (mem_emText he).1 d _
  · intro numeral d hd
    exact blocks_em (mem_emText (List.mem_of_getLast? hd)).1

/-- Terms of a pass whose characters are in no length in pixels do not come back in the conversion. -/
theorem hasNoTerm_convertEms {look : Reader Unit} {s text : Text} (h : convertEms s = .ok text)
    (hplain : ∀ b c cs, look b c cs = none → look b c (rewrite emText (ofText readEm (some c) cs)) = none)
    (hwritten : ∀ b c rest, c ≠ '.' → c.toLower ≠ 'v' → look b c rest = none) (hafter : Blocks look 'x')
    (hs : HasNoTerm look none s) : HasNoTerm look none text := by
  obtain ⟨rfl, -⟩ := eq_rewrite_of_convertEms h
  refine hasNoTerm_rewrite (HasNoTerm look) (fun b c cs n hguarded => (hasNoTerm_guarded hguarded).mp)
    (fun b c cs n _ _ hread => hasNoTerm_after_term fun x d y hsplit => guardedExtent?_of_opensSpan (opensSpan_of_readEm hread x d y hsplit))
    (fun b c cs hguarded _ hcondition => ?_) ?_ ?_ hs (isOrdinary_of_mem_ofText none s) (.inl rfl)
  · obtain ⟨hlook, hrest⟩ := (hasNoTerm_plain hguarded).mp hcondition
    exact ⟨hrest, hplain b c cs hlook⟩
  · intro b c cs n numeral rest _ x d y hsplit
    obtain ⟨-, hpoint, hv⟩ := mem_emText (hsplit ▸ List.mem_append_right x List.mem_cons_self : d ∈ emText numeral)
    exact hwritten _ _ _ hpoint hv
  · intro numeral d hd
    obtain ⟨i, hi⟩ := exists_emText_eq numeral
    rw [hi, List.getLast?_append] at hd
    obtain rfl := Option.some.inj hd
    exact hafter

theorem convertEms_of_hasNoTerm {s : Text} (h : HasNoTerm readEm none s) : convertEms s = .ok s := by
  have hsucceeds : Succeeds (convertEms s) := by
    rw [convertEms]
    refine succeeds_map.mpr (succeeds_mapM.mpr fun p hp => ?_)
    cases p with
    | guarded span => exact succeeds_ok span
    | term source numeral => exact absurd hp (h source numeral)
    | plain c => exact succeeds_ok [c]
  obtain ⟨text, htext⟩ := hsucceeds
  rw [htext, (eq_rewrite_of_convertEms htext).1]
  exact congrArg _ (rewrite_of_hasNoTerm h)

theorem convertEms_convertEms {s text : Text} (h : convertEms s = .ok text) : convertEms text = .ok text := by
  obtain ⟨rfl, -⟩ := eq_rewrite_of_convertEms h
  exact convertEms_of_hasNoTerm (hasNoTerm_em s)

/-- A normalized text is still normalized after the conversion. -/
theorem normalize_convertEms {s text : Text} (hs : normalize s = s) (h : convertEms s = .ok text) : normalize text = text := by
  have hterms := hasNoTerm_normalize s
  rw [hs] at hterms
  refine normalize_of_hasNoTerm (hasNoTerm_convertEms h ?_ ?_ ?_ hterms.1) (hasNoTerm_convertEms h ?_ ?_ ?_ hterms.2)
  · exact fun b c cs => readLeadingPoint_rewrite (blocks_em rfl)
  · intro b c rest hpoint _
    simp [readLeadingPoint, hpoint]
  · exact blocks_leadingPoint rfl
  · exact fun b c cs => readViewport_rewrite fun d hd => blocks_em (continuesTerm_of_unit hd)
  · intro b c rest _ hv
    cases rest <;> simp [readViewport, hv]
  · exact blocks_viewport rfl

end Pixels

end UiToolkit
