import UiToolkit.Proofs.Places

/-!
# Terms

Three kinds of terms give way when a value is translated: points that begin a number, viewport units behind a digit, and relative lengths. What they are is said here without the readers of the passes, by what stands before a place and what stands there; the readers find just these.
-/

namespace UiToolkit

open Text Piece

namespace Value

/-- A point in front of a digit, with nothing, a blank, a comma or an opening bracket before it. -/
def IsLeadingPoint (before rest : Text) : Prop :=
  (∀ c ∈ before.getLast?, isBlank c = true ∨ c = ',' ∨ c = '(') ∧
    ∃ digit after, rest = '.' :: digit :: after ∧ isDecimal digit = true

/-- No word goes on into the text. -/
def StartsOutsideWord (s : Text) : Prop := ∀ c ∈ s.head?, isWordChar c = false

/-- The unit `vw` or `vh` in any case behind a digit. -/
def IsViewportUnit (before rest : Text) : Prop :=
  (∃ digit ∈ before.getLast?, isDecimal digit = true) ∧
    ∃ unit after, rest = unit ++ after ∧ asciiLower unit ∈ ["vw".toList, "vh".toList] ∧ StartsOutsideWord after

/-- Digits with at most one point among them. -/
def IsUnsigned (s : Text) : Prop :=
  ∃ whole fraction, whole ++ fraction ≠ [] ∧ (∀ c ∈ whole ++ fraction, isDecimal c = true) ∧
    (s = whole ++ '.' :: fraction ∨ fraction = [] ∧ s = whole)

/-- A number with the unit `em` or `rem` in any case that continues no word and no other number. -/
def IsRelativeLength (before rest : Text) : Prop :=
  (∀ c ∈ before.getLast?, isWordChar c = false ∧ c ≠ '.' ∧ c ≠ '-') ∧
    ∃ sign number unit after, rest = sign ++ (number ++ (unit ++ after)) ∧ sign ∈ [[], ['+'], ['-']] ∧
      IsUnsigned number ∧ asciiLower unit ∈ ["em".toList, "rem".toList] ∧ StartsOutsideWord after

/-- No such term stands outside guarded spans. -/
def IsNormal (s : Text) : Prop :=
  ∀ place ∈ places s,
    ¬IsLeadingPoint place.1 place.2 ∧ ¬IsViewportUnit place.1 place.2 ∧ ¬IsRelativeLength place.1 place.2

end Value

/-! ### Numbers -/

namespace Numeral

open Value

theorem exists_of_unsignedExtent? {s : Text} {n : Nat} (h : unsignedExtent? s = some n) :
    ∃ number after, s = number ++ after ∧ number.length = n ∧ IsUnsigned number := by
  have hwhole := List.takeWhile_append_dropWhile (p := isDecimal) (l := s)
  have hdigits : ∀ t : Text, ∀ c ∈ t.takeWhile isDecimal, isDecimal c = true :=
    fun t c hc => List.mem_takeWhile_imp hc
  have hdrop : s.drop (digitExtent s) = s.dropWhile isDecimal := drop_length_takeWhile isDecimal s
  unfold unsignedExtent? at h
  simp only [hdrop] at h
  split at h
  · rename_i rest hrest
    rw [Option.ite_none_left_eq_some, Option.some.injEq] at h
    obtain ⟨hne, rfl⟩ := h
    refine ⟨s.takeWhile isDecimal ++ '.' :: rest.takeWhile isDecimal, rest.dropWhile isDecimal, ?_, ?_,
      s.takeWhile isDecimal, rest.takeWhile isDecimal, ?_, ?_, .inl rfl⟩
    · rw [List.append_assoc, List.cons_append, List.takeWhile_append_dropWhile, ← hrest, hwhole]
    · rw [List.length_append, List.length_cons, digitExtent, digitExtent]
      omega
    · intro hnil
      obtain ⟨hfirst, hsecond⟩ := List.append_eq_nil_iff.mp hnil
      exact hne ⟨congrArg List.length hfirst, congrArg List.length hsecond⟩
    · exact List.forall_mem_append.mpr ⟨hdigits s, hdigits rest⟩
  · rw [Option.ite_none_left_eq_some, Option.some.injEq] at h
    obtain ⟨hne, rfl⟩ := h
    refine ⟨s.takeWhile isDecimal, s.dropWhile isDecimal, hwhole.symm, rfl, s.takeWhile isDecimal, [], ?_, ?_,
      .inr ⟨rfl, rfl⟩⟩
    · rw [List.append_nil]
      exact fun hnil => hne (congrArg List.length hnil)
    · rw [List.append_nil]
      exact hdigits s

theorem unsignedExtent?_of_isUnsigned {number after : Text} (h : IsUnsigned number)
    (hafter : ∀ c ∈ after.head?, isDecimal c = false ∧ c ≠ '.') :
    unsignedExtent? (number ++ after) = some number.length := by
  obtain ⟨whole, fraction, hne, hdigits, hnumber⟩ := h
  obtain ⟨hwhole, hfraction⟩ := List.forall_mem_append.mp hdigits
  have hstop : after.takeWhile isDecimal = [] := by
    cases after with
    | nil => rfl
    | cons c after => rw [List.takeWhile_cons, (hafter c rfl).1, if_neg Bool.false_ne_true]
  have hextent : ∀ {digits : Text}, (∀ c ∈ digits, isDecimal c = true) →
      ∀ t : Text, t.takeWhile isDecimal = [] → digitExtent (digits ++ t) = digits.length := by
    intro digits hall t ht
    rw [digitExtent, List.takeWhile_append_of_pos hall, ht, List.append_nil]
  rcases hnumber with rfl | ⟨rfl, rfl⟩
  · have hpoint : digitExtent (whole ++ '.' :: (fraction ++ after)) = whole.length := hextent hwhole _ rfl
    rw [List.append_assoc, List.cons_append, unsignedExtent?, hpoint, List.drop_left]
    simp only
    rw [hextent hfraction after hstop, if_neg, List.length_append, List.length_cons]
    · exact congrArg some (by omega)
    · rintro ⟨hnone, hnone'⟩
      exact hne (List.append_eq_nil_iff.mpr ⟨List.length_eq_zero_iff.mp hnone, List.length_eq_zero_iff.mp hnone'⟩)
  · rw [List.append_nil] at hne
    have hpos := List.length_pos_of_ne_nil hne
    rw [unsignedExtent?, hextent hwhole after hstop, List.drop_left]
    simp only
    split
    · exact absurd rfl (hafter '.' rfl).2
    · rw [if_neg (by omega)]

theorem sign_cases {c : Char} (h : isSign c = true) : [c] ∈ [[], ['+'], ['-']] := by
  rcases Bool.or_eq_true_iff.mp h with h | h <;> rw [beq_iff_eq.mp h] <;> decide

theorem exists_of_extent? {s : Text} {n : Nat} (h : extent? s = some n) :
    ∃ sign number after, s = sign ++ (number ++ after) ∧ (sign ++ number).length = n ∧ sign ∈ [[], ['+'], ['-']] ∧
      IsUnsigned number := by
  cases s with
  | nil => cases h
  | cons c cs =>
    rw [extent?] at h
    split at h
    · rename_i hsign
      obtain ⟨m, hm, rfl⟩ := Option.map_eq_some_iff.mp h
      obtain ⟨number, after, rfl, rfl, hnumber⟩ := exists_of_unsignedExtent? hm
      exact ⟨[c], number, after, rfl, rfl, sign_cases hsign, hnumber⟩
    · obtain ⟨number, after, hsplit, rfl, hnumber⟩ := exists_of_unsignedExtent? h
      exact ⟨[], number, after, hsplit, rfl, List.mem_cons_self, hnumber⟩

theorem isNumberChar_of_mem {number : Text} (h : IsUnsigned number) : ∀ c ∈ number, isDecimal c = true ∨ c = '.' := by
  obtain ⟨whole, fraction, -, hdigits, hnumber⟩ := h
  obtain ⟨hwhole, hfraction⟩ := List.forall_mem_append.mp hdigits
  intro c hc
  rcases hnumber with rfl | ⟨-, rfl⟩
  · rcases List.mem_append.mp hc with hc | hc
    · exact .inl (hwhole c hc)
    · rcases List.mem_cons.mp hc with rfl | hc
      · exact .inr rfl
      · exact .inl (hfraction c hc)
  · exact .inl (hwhole c hc)

theorem ne_nil_of_isUnsigned {number : Text} (h : IsUnsigned number) : number ≠ [] := by
  obtain ⟨whole, fraction, hne, -, hnumber⟩ := h
  rcases hnumber with rfl | ⟨rfl, rfl⟩
  · simp
  · rwa [List.append_nil] at hne

theorem not_isSign_of_isUnsigned {number : Text} (h : IsUnsigned number) : ∀ c ∈ number, isSign c = false := by
  intro c hc
  have hnone : ∀ d ∈ "+-".toList, (isDecimal d || d == '.') = false := by decide
  refine Bool.eq_false_iff.mpr fun hsign => ?_
  have hmem : c ∈ "+-".toList := by
    rcases Bool.or_eq_true_iff.mp hsign with hsign | hsign <;> rw [beq_iff_eq.mp hsign] <;> decide
  have hnumber := isNumberChar_of_mem h c hc
  have hfalse := hnone c hmem
  simp only [Bool.or_eq_false_iff, beq_eq_false_iff_ne] at hfalse
  exact hnumber.elim (fun hd => Bool.false_ne_true (hfalse.1.symm.trans hd)) hfalse.2

theorem extent?_of_isUnsigned {sign number after : Text} (hsign : sign ∈ [[], ['+'], ['-']]) (h : IsUnsigned number)
    (hafter : ∀ c ∈ after.head?, isDecimal c = false ∧ c ≠ '.') :
    extent? (sign ++ (number ++ after)) = some (sign ++ number).length := by
  have hunsigned := unsignedExtent?_of_isUnsigned h hafter
  have hsigned : ∀ c, isSign c = true → extent? (c :: (number ++ after)) = some (number.length + 1) := by
    intro c hc
    rw [extent?, if_pos hc, hunsigned]
    rfl
  simp only [List.mem_cons, List.not_mem_nil, or_false] at hsign
  rcases hsign with rfl | rfl | rfl
  · obtain ⟨c, cs, rfl⟩ := List.exists_cons_of_ne_nil (ne_nil_of_isUnsigned h)
    have hc := not_isSign_of_isUnsigned h c List.mem_cons_self
    rw [List.nil_append, List.nil_append, List.cons_append, extent?, if_neg (by rw [hc]; exact Bool.false_ne_true)]
    exact hunsigned
  · exact hsigned '+' rfl
  · exact hsigned '-' rfl

end Numeral

/-! ### Units -/

theorem Text.asciiLower_eq_cons_iff {s word : Text} {letter : Char} :
    asciiLower s = letter :: word ↔ ∃ c cs, s = c :: cs ∧ c.toLower = letter ∧ asciiLower cs = word :=
  List.map_eq_cons_iff

namespace Pixels

open Value

theorem endsWord_iff {s : Text} : endsWord s = true ↔ StartsOutsideWord s := by
  cases s with
  | nil => exact ⟨fun _ c hc => (by cases hc), fun _ => rfl⟩
  | cons c s => simp [endsWord, StartsOutsideWord]

theorem startsWithAnyCase_iff {word s : Text}
    (hword : ∀ letter ∈ word, letter ≠ 'i' ∧ letter ≠ 's' ∧ letter ≠ 'k') :
    startsWithAnyCase word s = true ↔ asciiLower (s.take word.length) = word := by
  induction word generalizing s with
  | nil => simp [startsWithAnyCase, asciiLower]
  | cons letter word ih =>
    obtain ⟨hletter, hword⟩ := List.forall_mem_cons.mp hword
    cases s with
    | nil => simp [startsWithAnyCase, asciiLower]
    | cons c s =>
      rw [startsWithAnyCase, Bool.and_eq_true, isLetterAnyCase_iff hletter, ih hword, List.length_cons, List.take_succ_cons,
        asciiLower, asciiLower, List.map_cons, List.cons.injEq]

/-- A unit begins with a letter, so no number goes on into it. -/
theorem exists_cons_of_unit {unit : Text} (h : asciiLower unit ∈ ["em".toList, "rem".toList]) :
    ∃ letter letters, unit = letter :: letters ∧ isDecimal letter = false ∧ letter ≠ '.' := by
  obtain ⟨c, cs, rfl, hc⟩ : ∃ c cs, unit = c :: cs ∧ c.toLower ∈ "vwhemr".toList := by
    simp only [List.mem_cons, List.not_mem_nil, or_false] at h
    rcases h with h | h <;> obtain ⟨c, cs, rfl, hc, -⟩ := asciiLower_eq_cons_iff.mp h <;>
      exact ⟨c, cs, rfl, by rw [hc]; decide⟩
  refine ⟨c, cs, rfl, (unitLetter_of_toLower hc).1, ?_⟩
  rintro rfl
  exact absurd hc (by decide)

theorem exists_of_emExtent? {s : Text} {n : Nat} (h : emExtent? s = some n) :
    ∃ unit after, s = unit ++ after ∧ unit.length = n ∧ asciiLower unit ∈ ["em".toList, "rem".toList] ∧
      StartsOutsideWord after := by
  have hsplit : ∀ word : Text, word ∈ ["em".toList, "rem".toList] → startsWithAnyCase word s = true →
      endsWord (s.drop word.length) = true → ∃ unit after, s = unit ++ after ∧ unit.length = word.length ∧
        asciiLower unit ∈ ["em".toList, "rem".toList] ∧ StartsOutsideWord after := by
    intro word hmem hstarts hends
    have hplain : ∀ w ∈ ["em".toList, "rem".toList], ∀ letter ∈ w, letter ≠ 'i' ∧ letter ≠ 's' ∧ letter ≠ 'k' := by
      decide
    have hlower := (startsWithAnyCase_iff (hplain word hmem)).mp hstarts
    refine ⟨s.take word.length, s.drop word.length, (List.take_append_drop _ s).symm, ?_, ?_, endsWord_iff.mp hends⟩
    · rw [List.length_take]
      exact Nat.min_eq_left (length_le_of_startsWithAnyCase hstarts)
    · rwa [hlower]
  unfold emExtent? at h
  split at h
  · rename_i hrem
    cases h
    obtain ⟨hstarts, hends⟩ := Bool.and_eq_true_iff.mp hrem
    exact hsplit "rem" (by decide) hstarts hends
  · split at h
    · rename_i hem
      cases h
      obtain ⟨hstarts, hends⟩ := Bool.and_eq_true_iff.mp hem
      exact hsplit "em" (by decide) hstarts hends
    · cases h

theorem emExtent?_of_unit {unit after : Text} (hunit : asciiLower unit ∈ ["em".toList, "rem".toList])
    (hafter : StartsOutsideWord after) : emExtent? (unit ++ after) = some unit.length := by
  have hends := endsWord_iff.mpr hafter
  have hreads : ∀ word : Text, (∀ letter ∈ word, letter ≠ 'i' ∧ letter ≠ 's' ∧ letter ≠ 'k') →
      asciiLower unit = word → unit.length = word.length ∧ startsWithAnyCase word (unit ++ after) = true ∧
        endsWord ((unit ++ after).drop word.length) = true := by
    rintro word hplain rfl
    have hlength : (asciiLower unit).length = unit.length := List.length_map _
    refine ⟨hlength.symm, (startsWithAnyCase_iff hplain).mpr ?_, ?_⟩
    · rw [hlength, List.take_left]
    · rwa [hlength, List.drop_left]
  simp only [List.mem_cons, List.not_mem_nil, or_false] at hunit
  unfold emExtent?
  rcases hunit with hem | hrem
  · obtain ⟨hlength, hstarts, hends⟩ : unit.length = 2 ∧ startsWithAnyCase "em" (unit ++ after) = true ∧
        endsWord ((unit ++ after).drop 2) = true := hreads "em" (by decide) hem
    have hnot : startsWithAnyCase "rem" (unit ++ after) = false := by
      have hletters : asciiLower unit = ['e', 'm'] := hem
      obtain ⟨c, cs, rfl, hc, -⟩ := asciiLower_eq_cons_iff.mp hletters
      have hr : isLetterAnyCase 'r' c = false := by simp [isLetterAnyCase, hc]
      change (isLetterAnyCase 'r' c && _) = false
      rw [hr, Bool.false_and]
    rw [hnot, Bool.false_and, if_neg Bool.false_ne_true, if_pos (Bool.and_eq_true_iff.mpr ⟨hstarts, hends⟩), hlength]
  · obtain ⟨hlength, hstarts, hends⟩ : unit.length = 3 ∧ startsWithAnyCase "rem" (unit ++ after) = true ∧
        endsWord ((unit ++ after).drop 3) = true := hreads "rem" (by decide) hrem
    rw [if_pos (Bool.and_eq_true_iff.mpr ⟨hstarts, hends⟩), hlength]

theorem continuesTerm_eq_false_iff {c : Char} :
    continuesTerm c = false ↔ isWordChar c = false ∧ c ≠ '.' ∧ c ≠ '-' := by
  rw [continuesTerm, Bool.or_eq_false_iff, Bool.or_eq_false_iff, beq_eq_false_iff_ne, beq_eq_false_iff_ne, and_assoc]

/-- The reader of relative lengths finds just these. -/
theorem isRelativeLength_iff {before : Text} {c : Char} {cs : Text} :
    IsRelativeLength before (c :: cs) ↔ readEm before.getLast? c cs ≠ none := by
  have hbefore : before.getLast?.any continuesTerm = false ↔
      ∀ d ∈ before.getLast?, isWordChar d = false ∧ d ≠ '.' ∧ d ≠ '-' := by
    cases before.getLast? <;> simp [continuesTerm_eq_false_iff]
  rw [IsRelativeLength, ← hbefore]
  constructor
  · rintro ⟨hstarts, sign, number, unit, after, hsplit, hsign, hnumber, hunit, hafter⟩
    have hhead : ∀ d ∈ (unit ++ after).head?, isDecimal d = false ∧ d ≠ '.' := by
      obtain ⟨letter, letters, rfl, hletter⟩ := exists_cons_of_unit hunit
      intro d hd
      exact Option.some.inj hd ▸ hletter
    have hn := Numeral.extent?_of_isUnsigned hsign hnumber hhead
    have hsize := emExtent?_of_unit hunit hafter
    have hdrop : (c :: cs).drop (sign ++ number).length = unit ++ after := by
      rw [hsplit, ← List.append_assoc, List.drop_left]
    rw [← hsplit] at hn
    generalize (sign ++ number).length = n at hn hdrop
    simp [readEm, hstarts, hn, hdrop, hsize]
  · intro h
    obtain ⟨⟨extent, numeral⟩, hfound⟩ := Option.ne_none_iff_exists'.mp h
    obtain ⟨n, size, hstarts, hn, hsize, -, -⟩ := readEm_eq_some hfound
    obtain ⟨sign, number, rest, hsplit, rfl, hsign, hnumber⟩ := Numeral.exists_of_extent? hn
    rw [hsplit, ← List.append_assoc, List.drop_left] at hsize
    obtain ⟨unit, after, rfl, -, hunit, hafter⟩ := exists_of_emExtent? hsize
    exact ⟨hstarts, sign, number, unit, after, hsplit, hsign, hnumber, hunit, hafter⟩

end Pixels

namespace Value

theorem isLeadingPoint_iff {before : Text} {c : Char} {cs : Text} :
    IsLeadingPoint before (c :: cs) ↔ readLeadingPoint before.getLast? c cs ≠ none := by
  have hopens : before.getLast?.all opensNumber = true ↔
      ∀ d ∈ before.getLast?, isBlank d = true ∨ d = ',' ∨ d = '(' := by
    cases before.getLast? <;> simp [opensNumber, or_assoc]
  rw [IsLeadingPoint, ← hopens]
  constructor
  · rintro ⟨hbefore, digit, after, heq, hdigit⟩
    obtain ⟨rfl, rfl⟩ := List.cons.inj heq
    simp [readLeadingPoint, hbefore, hdigit]
  · intro h
    obtain ⟨⟨n, ⟨⟩⟩, hfound⟩ := Option.ne_none_iff_exists'.mp h
    obtain ⟨-, rfl, hbefore, hdigit⟩ := readLeadingPoint_eq_some hfound
    obtain ⟨digit, hhead, hdigit⟩ := (Option.any_eq_true _ _).mp hdigit
    obtain ⟨after, rfl⟩ := List.head?_eq_some_iff.mp hhead
    exact ⟨hbefore, digit, after, rfl, hdigit⟩

theorem exists_letters_of_viewport {unit : Text} (h : asciiLower unit ∈ ["vw".toList, "vh".toList]) :
    ∃ v w, unit = [v, w] ∧ v.toLower = 'v' ∧ (w.toLower = 'w' ∨ w.toLower = 'h') := by
  have hpair : ∀ a b : Char, asciiLower unit = [a, b] → ∃ v w, unit = [v, w] ∧ v.toLower = a ∧ w.toLower = b := by
    intro a b hlower
    obtain ⟨v, _, rfl, hv, hlower⟩ := asciiLower_eq_cons_iff.mp hlower
    obtain ⟨w, _, rfl, hw, hlower⟩ := asciiLower_eq_cons_iff.mp hlower
    obtain rfl := List.map_eq_nil_iff.mp hlower
    exact ⟨v, w, rfl, hv, hw⟩
  simp only [List.mem_cons, List.not_mem_nil, or_false] at h
  rcases h with h | h
  · obtain ⟨v, w, hunit, hv, hw⟩ := hpair 'v' 'w' h
    exact ⟨v, w, hunit, hv, .inl hw⟩
  · obtain ⟨v, w, hunit, hv, hw⟩ := hpair 'v' 'h' h
    exact ⟨v, w, hunit, hv, .inr hw⟩

theorem isViewportUnit_iff {before : Text} {c : Char} {cs : Text} :
    IsViewportUnit before (c :: cs) ↔ readViewport before.getLast? c cs ≠ none := by
  have hdigit : before.getLast?.any isDecimal = true ↔ ∃ digit ∈ before.getLast?, isDecimal digit = true := by
    cases before.getLast? <;> simp
  rw [IsViewportUnit, ← hdigit]
  constructor
  · rintro ⟨hbefore, unit, after, hsplit, hunit, hafter⟩
    obtain ⟨v, d, rfl, hc, hd⟩ := exists_letters_of_viewport hunit
    obtain ⟨rfl, rfl⟩ := List.cons.inj hsplit
    have hends := Pixels.endsWord_iff.mpr hafter
    simp [readViewport, hbefore, hc, hd, hends]
  · intro h
    obtain ⟨⟨n, ⟨⟩⟩, hfound⟩ := Option.ne_none_iff_exists'.mp h
    obtain ⟨-, hbefore, hc, d, after, rfl, hd, hends⟩ := readViewport_eq_some hfound
    refine ⟨hbefore, [c, d], after, rfl, ?_, Pixels.endsWord_iff.mp hends⟩
    rcases hd with hd | hd <;> simp [asciiLower, hc, hd]

/-- A text has no term of a pass when no place outside guarded spans holds what the pass reads. -/
theorem hasNoTerm_iff_forall {α : Type} {read : Reader α} {Holds : Text → Text → Prop}
    (hread : ∀ {before : Text} {c : Char} {cs : Text}, Holds before (c :: cs) ↔ read before.getLast? c cs ≠ none) {s : Text} :
    HasNoTerm read none s ↔ ∀ place ∈ places s, ¬Holds place.1 place.2 := by
  rw [hasNoTerm_iff_places]
  refine forall₂_congr fun place hplace => ?_
  obtain ⟨before, rest⟩ := place
  obtain ⟨c, cs, rfl⟩ : ∃ c cs, rest = c :: cs := exists_cons_of_mem_places hplace
  rw [hread, not_not]
  refine ⟨fun h => h c cs rfl, fun h d ds heq => ?_⟩
  obtain ⟨rfl, rfl⟩ := List.cons.inj heq
  exact h

theorem hasNoTerm_leadingPoint_iff {s : Text} :
    HasNoTerm readLeadingPoint none s ↔ ∀ place ∈ places s, ¬IsLeadingPoint place.1 place.2 :=
  hasNoTerm_iff_forall isLeadingPoint_iff

theorem hasNoTerm_viewport_iff {s : Text} :
    HasNoTerm readViewport none s ↔ ∀ place ∈ places s, ¬IsViewportUnit place.1 place.2 :=
  hasNoTerm_iff_forall isViewportUnit_iff

theorem hasNoTerm_em_iff {s : Text} :
    HasNoTerm Pixels.readEm none s ↔ ∀ place ∈ places s, ¬IsRelativeLength place.1 place.2 :=
  hasNoTerm_iff_forall Pixels.isRelativeLength_iff

theorem isNormal_iff {s : Text} :
    IsNormal s ↔ HasNoTerm readLeadingPoint none s ∧ HasNoTerm readViewport none s ∧ HasNoTerm Pixels.readEm none s := by
  rw [hasNoTerm_leadingPoint_iff, hasNoTerm_viewport_iff, hasNoTerm_em_iff, ← forall₂_and, ← forall₂_and]
  rfl

end Value

end UiToolkit
