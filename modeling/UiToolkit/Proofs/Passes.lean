import UiToolkit.Proofs.NormalForm

/-!
# The passes leave nothing to do

The three passes over a value, for leading points, viewport units and relative lengths, one after the other: after each there is no term left of it or of those before. Numerals and units are read from their own characters and the one after them, so that a term found in what was written would have been there before.
-/

namespace UiToolkit

open Declaration Text Piece

/-! ### Characters that keep terms apart -/

/-- The characters that a guarded span may begin with. -/
def guarding : Text := "\"'uUrR"

theorem not_isLetterAnyCase_of_le (letter : Char) {c : Char} (hletter : letter.toNat < 128) (hne : letter ≠ 'i' ∧ letter ≠ 's' ∧ letter ≠ 'k')
    (hc : 128 ≤ c.toNat) : isLetterAnyCase letter c = false := by
  have hlower : c ≠ letter := by
    rintro rfl
    omega
  simp [isLetterAnyCase, toLower_of_le hc, hlower, hne]

theorem neverGuards_of {p : Char → Bool} (h : ∀ c ∈ guarding, p c = false) {c : Char} (hc : p c = true) :
    neverGuards c = true := by
  rcases Nat.lt_or_ge c.toNat 128 with hascii | hlarge
  · have hall : (neverGuards c || guarding.contains c) = true :=
      forall_ascii (p := fun d => neverGuards d || guarding.contains d) (by decide) hascii
    refine (Bool.or_eq_true_iff.mp hall).resolve_right fun hmem => ?_
    exact Bool.false_ne_true ((h c (List.contains_iff_mem.mp hmem)).symm.trans hc)
  · have hquote : ∀ d : Char, d.toNat < 128 → c ≠ d := by
      rintro d hd rfl
      omega
    simp [neverGuards, hquote '"' (by decide), hquote '\'' (by decide),
      not_isLetterAnyCase_of_le 'u' (by decide) (by decide) hlarge,
      not_isLetterAnyCase_of_le 'r' (by decide) (by decide) hlarge]

theorem unitLetter_of_toLower {c : Char} (h : c.toLower ∈ "vwhemr".toList) :
    isDecimal c = false ∧ isWordChar c = true := by
  have hletters : ∀ d ∈ "vwhemr".toList, d.toNat < 128 := by decide
  have hall := forall_ascii (p := fun e => !("vwhemr".toList.contains e.toLower) || (!isDecimal e && isWordChar e))
    (by decide) (toNat_lt_of_toLower rfl (hletters _ h))
  rw [List.contains_iff_mem.mpr h] at hall
  simpa using hall

theorem isWordChar_of_isDecimal {c : Char} (hc : isDecimal c = true) : isWordChar c = true := by
  simp [isWordChar, isAlphanumeric, isDigit, hc]

theorem isDecimal_of_isDigit {c : Char} (hc : c.isDigit = true) : isDecimal c = true := by
  have hall := forall_ascii (p := fun d => !d.isDigit || isDecimal d) (by decide) (toNat_lt_of_isDigit hc)
  simpa [hc] using hall

namespace Value

theorem blocks_leadingPoint {c : Char} (hc : opensNumber c = false) : Blocks readLeadingPoint c := by
  intro d cs
  simp [readLeadingPoint, hc]

theorem blocks_viewport {c : Char} (hc : isDecimal c = false) : Blocks readViewport c := by
  intro d cs
  cases cs <;> simp [readViewport, hc]

theorem blocks_em {c : Char} (hc : Pixels.continuesTerm c = true) : Blocks Pixels.readEm c := by
  intro d cs
  simp [Pixels.readEm, hc]

variable {α : Type} {read : Reader α} {write : α → Text}

/-- No leading point appears in a pass that writes nothing right after a point. -/
theorem readLeadingPoint_rewrite (hpoint : Blocks read '.') {before : Option Char} {c : Char} {cs : Text}
    (h : readLeadingPoint before c cs = none) :
    readLeadingPoint before c (rewrite write (ofText read (some c) cs)) = none := by
  unfold readLeadingPoint at h ⊢
  by_cases hc : c = '.'
  · subst hc
    rwa [head?_rewrite hpoint]
  · rw [beq_false_of_ne hc]
    rfl

theorem endsWord_congr {s t : Text} (h : s.head? = t.head?) : Pixels.endsWord s = Pixels.endsWord t := by
  cases s <;> cases t <;> simp_all [Pixels.endsWord]

theorem readViewport_rewrite (hletters : ∀ d : Char, d.toLower ∈ "vwhemr".toList → Blocks read d)
    {before : Option Char} {c : Char} {cs : Text} (h : readViewport before c cs = none) :
    readViewport before c (rewrite write (ofText read (some c) cs)) = none := by
  refine Option.eq_none_iff_forall_ne_some.mpr fun found hfound => ?_
  obtain ⟨n, ⟨⟩⟩ := found
  obtain ⟨rfl, hbefore, hc, d, rest, hsplit, hd, hends⟩ := readViewport_eq_some hfound
  have hblocks : Blocks read c := hletters c (by rw [hc]; decide)
  have hunit : d.toLower ∈ "vwhemr".toList := by
    rcases hd with hd | hd <;> rw [hd] <;> decide
  have hguards : neverGuards d = true :=
    neverGuards_of (p := fun e => e.toLower == 'w' || e.toLower == 'h') (by decide) (by simpa using hd)
  obtain ⟨rest', rfl, hrest⟩ := eq_append_of_rewrite hblocks (List.forall_mem_singleton.mpr (hletters d hunit))
    (fun u e v hsplit => by
      cases u with
      | nil =>
        cases hsplit
        exact guardedExtent?_eq_none hguards _
      | cons _ u => simp at hsplit) (x := [d]) hsplit
  have hhead : rest.head? = rest'.head? := by
    rw [hrest]
    exact head?_rewrite (hletters d hunit) rest'
  simp [readViewport, hbefore, hc, hd, ← endsWord_congr hhead, hends] at h

/-! ### Leading points and viewport units -/

theorem hasNoTerm_fillLeadingPoints (s : Text) : HasNoTerm readLeadingPoint none (fillLeadingPoints s) := by
  refine hasNoTerm_rewrite (fun _ _ => True) (fun _ _ _ _ _ _ => trivial) (fun _ _ _ _ _ _ _ _ => trivial)
    (fun b c cs _ hread _ => ⟨trivial, readLeadingPoint_rewrite (blocks_leadingPoint rfl) hread⟩) ?_ ?_ trivial
    (isOrdinary_leadingPoint none s) (.inl rfl)
  · intro b c cs n meaning rest _ x d y hsplit
    rcases x with _ | ⟨e, _ | ⟨f, x⟩⟩
    · cases hsplit
      rfl
    · cases hsplit
      exact blocks_leadingPoint rfl _ _
    · simp at hsplit
  · intro meaning d hd
    cases hd
    exact blocks_leadingPoint rfl

/-- The terms of a pass begin no guarded spans, so what is found behind one is found in the whole text. -/
theorem hasNoTerm_after_term {γ : Type} {look : Reader γ} {before : Option Char} {c : Char} {cs : Text}
    {n : Nat} (hguards : ∀ x d y, c :: cs.take n = x ++ d :: y → guardedExtent? d (y ++ cs.drop n) = none)
    (h : HasNoTerm look before (c :: cs)) : HasNoTerm look (some (lastOf c (cs.take n))) (cs.drop n) := by
  rw [some_lastOf, ← getLast?_cons_or c (cs.take n) before]
  refine hasNoTerm_drop hguards ?_
  rwa [List.cons_append, List.take_append_drop]

theorem guardedExtent?_of_viewport {before : Option Char} {c : Char} {cs : Text} {n : Nat}
    (h : readViewport before c cs = some (n, ())) :
    ∀ x d y, c :: cs.take n = x ++ d :: y → guardedExtent? d (y ++ cs.drop n) = none := by
  intro x d y hsplit
  obtain ⟨rfl, -, hc, e, rest, rfl, he, -⟩ := readViewport_eq_some h
  refine guardedExtent?_eq_none (neverGuards_of (p := fun f => f.toLower == 'v' || f.toLower == 'w' || f.toLower == 'h')
    (by decide) ?_) _
  have hmem : d ∈ c :: (e :: rest).take 1 := hsplit ▸ List.mem_append_right x List.mem_cons_self
  simp only [List.take_succ_cons, List.take_zero, List.mem_cons, List.not_mem_nil, or_false] at hmem
  rcases hmem with rfl | rfl
  · simp [hc]
  · rcases he with he | he <;> simp [he]

theorem blocks_viewport_of_toLower {c : Char} (h : c.toLower ∈ "vwhemr".toList) : Blocks readViewport c :=
  blocks_viewport (unitLetter_of_toLower h).1

/-- What is written for a viewport unit is a single character after which no term of the two passes begins. -/
theorem hasNoTerm_viewportToPercent (s : Text) : HasNoTerm readViewport none (viewportToPercent s) := by
  refine hasNoTerm_rewrite (fun _ _ => True) (fun _ _ _ _ _ _ => trivial) (fun _ _ _ _ _ _ _ _ => trivial)
    (fun b c cs _ hread _ => ⟨trivial, readViewport_rewrite (fun d => blocks_viewport_of_toLower) hread⟩) ?_ ?_ trivial
    (isOrdinary_viewport none s) (.inl rfl)
  · intro b c cs n meaning rest _ x d y hsplit
    have hsplit : ['%'] = x ++ d :: y := hsplit
    cases x with
    | nil =>
      cases hsplit
      cases rest with
      | nil => rfl
      | cons e rest => simp [readViewport]
    | cons e x => simp at hsplit
  · intro meaning d hd
    cases hd
    exact blocks_viewport rfl

theorem hasNoTerm_leadingPoint_viewportToPercent {s : Text} (h : HasNoTerm readLeadingPoint none s) :
    HasNoTerm readLeadingPoint none (viewportToPercent s) := by
  refine hasNoTerm_rewrite (HasNoTerm readLeadingPoint) (fun b c cs n hguarded => (hasNoTerm_guarded hguarded).mp)
    (fun b c cs n _ _ hread => hasNoTerm_after_term (guardedExtent?_of_viewport hread))
    (fun b c cs hguarded _ hcondition => ?_) ?_ ?_ h (isOrdinary_viewport none s) (.inl rfl)
  · obtain ⟨hlook, hrest⟩ := (hasNoTerm_plain hguarded).mp hcondition
    exact ⟨hrest, readLeadingPoint_rewrite (blocks_viewport rfl) hlook⟩
  · intro b c cs n meaning rest _ x d y hsplit
    cases x with
    | nil =>
      cases hsplit
      rfl
    | cons e x => simp at hsplit
  · intro meaning d hd
    cases hd
    exact blocks_leadingPoint rfl

/-- The text after the two passes has no term of either. -/
theorem hasNoTerm_normalize (s : Text) :
    HasNoTerm readLeadingPoint none (normalize s) ∧ HasNoTerm readViewport none (normalize s) :=
  ⟨hasNoTerm_leadingPoint_viewportToPercent (hasNoTerm_fillLeadingPoints s), hasNoTerm_viewportToPercent _⟩

theorem normalize_of_hasNoTerm {s : Text} (hpoint : HasNoTerm readLeadingPoint none s)
    (hviewport : HasNoTerm readViewport none s) : normalize s = s := by
  have hfill : fillLeadingPoints s = s := rewrite_of_hasNoTerm hpoint
  rw [normalize, hfill]
  exact rewrite_of_hasNoTerm hviewport

theorem normalize_eq_self_iff {s : Text} :
    normalize s = s ↔ HasNoTerm readLeadingPoint none s ∧ HasNoTerm readViewport none s := by
  constructor
  · intro h
    have hterms := hasNoTerm_normalize s
    rwa [h] at hterms
  · exact fun ⟨hpoint, hviewport⟩ => normalize_of_hasNoTerm hpoint hviewport

theorem normalize_normalize (s : Text) : normalize (normalize s) = normalize s :=
  normalize_of_hasNoTerm (hasNoTerm_normalize s).1 (hasNoTerm_normalize s).2

end Value

end UiToolkit
