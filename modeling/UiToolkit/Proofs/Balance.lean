import UiToolkit.Proofs.Retranslation

/-!
# Balanced text

A text is balanced when reading it leaves no bracket and no quote open. It stays so when blanks are cut off at its ends and when it is cut at its first separator outside brackets and quotes, and the passes over a value open and close nothing: they put characters that stand inside words in place of others, so they keep the first word of a value as balanced as it was, too.
-/

namespace UiToolkit

open Attempt Text

namespace Text

open Nesting

variable {s t : Text}

theorem Nesting.isSettled_after {n : Nesting} (h : n.IsSettled) (s : Text) : (n.after s).IsSettled := by
  induction s generalizing n with
  | nil => exact h
  | cons c s ih => exact ih (isSettled_step h c)

theorem Nesting.after_append (n : Nesting) (s t : Text) : n.after (s ++ t) = (n.after s).after t := List.foldl_append

/-- Reading a balanced text leads back to where it began. -/
theorem isBalanced_iff : isBalanced s = true ↔ top.after s = top := by
  have hsettled : (top.after s).IsSettled := isSettled_after (fun _ => rfl) s
  rw [isBalanced, Bool.and_eq_true, List.isEmpty_iff, Option.isNone_iff_eq_none]
  refine ⟨fun ⟨hclosers, hquote⟩ => ?_, fun h => by rw [h]; exact ⟨rfl, rfl⟩⟩
  have hhidden := hsettled hquote
  generalize top.after s = n at hclosers hquote hhidden
  cases n
  simp_all [top]

theorem isBalanced_append (hs : isBalanced s = true) (ht : isBalanced t = true) : isBalanced (s ++ t) = true := by
  rw [isBalanced_iff] at hs ht ⊢
  rw [after_append, hs, ht]

theorem isBalanced_joinWith {separator : Text} (hseparator : isBalanced separator = true) {parts : List Text}
    (hparts : ∀ part ∈ parts, isBalanced part = true) : isBalanced (joinWith separator parts) = true := by
  cases parts with
  | nil => rfl
  | cons first parts =>
    obtain ⟨hfirst, hrest⟩ := List.forall_mem_cons.mp hparts
    rw [joinWith_cons]
    refine isBalanced_append hfirst ?_
    clear hparts
    induction parts with
    | nil => rfl
    | cons part parts ih =>
      obtain ⟨hpart, hrest⟩ := List.forall_mem_cons.mp hrest
      exact isBalanced_append (isBalanced_append hseparator hpart) (ih hrest)

theorem isBalanced_plain (hs : ∀ c ∈ s, c ∉ nestingChars) : isBalanced s = true := by
  rw [isBalanced_iff]
  by_cases hne : s = []
  · rw [hne]
    rfl
  · exact after_plain isProper_top hne hs

theorem notMem_nestingChars_of_isBlank {c : Char} (hc : isBlank c = true) : c ∉ nestingChars := by
  have hall := forall_blank (p := fun c => !nestingChars.contains c) (by decide) hc
  simpa using hall

theorem isBalanced_of_isBlankText {s : Text} (h : isBlankText s = true) : isBalanced s = true :=
  isBalanced_plain fun c hc => notMem_nestingChars_of_isBlank (List.all_eq_true.mp h c hc)

/-- Characters that open and close nothing lead to the top level only from there. -/
theorem Nesting.eq_top_of_after_plain {n : Nesting} (hn : n.IsProper) {run : Text} (hrun : ∀ c ∈ run, c ∉ nestingChars)
    (h : n.after run = top) : n = top := by
  by_cases hne : run = []
  · rwa [hne] at h
  · rw [after_plain hn hne hrun] at h
    split at h
    · rename_i hquote
      rw [show n.quote = none from congrArg Nesting.quote h] at hquote
      cases hquote
    · exact h

theorem isBalanced_trim (h : isBalanced s = true) : isBalanced (trim s) = true := by
  obtain ⟨a, b, hs, ha, hb⟩ := exists_eq_trim s
  have hfront : top.after a = top := isBalanced_iff.mp (isBalanced_plain fun c hc => notMem_nestingChars_of_isBlank (ha c hc))
  rw [isBalanced_iff, hs, after_append, after_append, hfront] at h
  rw [isBalanced_iff]
  exact eq_top_of_after_plain (isProper_after isProper_top _) (fun c hc => notMem_nestingChars_of_isBlank (hb c hc)) h

/-- The first part of a text is all of it, or ends at the top level. -/
theorem firstFrom_cases (separator : Char) {n : Nesting} (hn : n.IsSettled) (s : Text) :
    firstFrom separator n s = s ∨ n.after (firstFrom separator n s) = top := by
  induction s generalizing n with
  | nil => exact .inl rfl
  | cons c s ih =>
    rw [firstFrom]
    split
    · rename_i hseparates
      exact .inr (eq_top_of_separates hn hseparates)
    · exact (ih (isSettled_step hn c)).imp (congrArg (c :: ·)) id

theorem isBalanced_firstTopLevel (separator : Char) (h : isBalanced s = true) : isBalanced (firstTopLevel separator s) = true := by
  rw [firstTopLevel_eq]
  rcases firstFrom_cases separator (n := top) (fun _ => rfl) s with hwhole | htop
  · rwa [hwhole]
  · exact isBalanced_iff.mpr htop

/-! ### Runs that give way to others -/

/-- A character inside a word that opens, closes and hides nothing. -/
def isInline (c : Char) : Bool := !isBlank c && !nestingChars.contains c

theorem isInline_iff {c : Char} : isInline c = true ↔ isBlank c = false ∧ c ∉ nestingChars := by
  simp [isInline]

theorem isBalanced_of_isInline (hs : ∀ c ∈ s, isInline c = true) : isBalanced s = true :=
  isBalanced_plain fun c hc => (isInline_iff.mp (hs c hc)).2

theorem Nesting.after_inline {n : Nesting} (hn : n.IsProper) {u v : Text} (hu : IsRun isInline u) (hv : IsRun isInline v) :
    n.after u = n.after v :=
  (after_plain hn hu.ne_nil fun c hc => (isInline_iff.mp (hu.all c hc)).2).trans
    (after_plain hn hv.ne_nil fun c hc => (isInline_iff.mp (hv.all c hc)).2).symm

theorem isWhole_inline {n : Nesting} (hn : n.IsProper) {u : Text} (hu : IsRun isInline u) : IsWhole ',' n u :=
  isWhole_plain hn fun c hc => (isInline_iff.mp (hu.all c hc)).2

/-- A word is cut from both texts at the same places when no run is blank. -/
theorem Replaced.firstWord {P Q : Text → Prop} (hP : ∀ {u}, P u → IsRun (!isBlank ·) u)
    (hQ : ∀ {v}, Q v → IsRun (!isBlank ·) v) (h : Replaced P Q s t) (hs : isBlankText s = false) (ht : isBlankText t = false) :
    Replaced P Q (Value.firstWord s) (Value.firstWord t) := by
  rw [Value.firstWord_eq hs, Value.firstWord_eq ht]
  exact (h.dropWhile hP hQ).takeWhile hP hQ

theorem IsRun.not_isBlank {u : Text} (h : IsRun isInline u) : IsRun (!isBlank ·) u :=
  h.mono fun hc => (Bool.and_eq_true_iff.mp hc).1

/-- The second text has other inline runs where the first has some. -/
abbrev Respelled : Text → Text → Prop := Replaced (IsRun isInline) (IsRun isInline)

namespace Respelled

theorem after_eq (h : Respelled s t) {n : Nesting} (hn : n.IsProper) : n.after s = n.after t := by
  induction h generalizing n with
  | nil => rfl
  | same c _ ih => exact ih (isProper_step hn c)
  | @run u v s t hu hv _ ih =>
    rw [after_append, after_append, after_inline hn hu hv]
    exact ih (isProper_after hn v)

theorem isBalanced_eq (h : Respelled s t) : isBalanced s = isBalanced t := by
  rw [isBalanced, isBalanced, h.after_eq isProper_top]

/-- A run that gives way to another adds no layer. -/
theorem isWhole (h : Respelled s t) {n : Nesting} (hn : n.IsProper) (hs : IsWhole ',' n s) : IsWhole ',' n t := by
  induction h generalizing n with
  | nil => exact hs
  | same c _ ih =>
    obtain ⟨hseparates, hrest⟩ := isWhole_cons.mp hs
    exact isWhole_cons.mpr ⟨hseparates, ih (isProper_step hn c) hrest⟩
  | @run u v s t hu hv _ ih =>
    have hrest := (isWhole_append.mp hs).2
    rw [after_inline hn hu hv] at hrest
    exact isWhole_append.mpr ⟨isWhole_inline hn hv, ih (isProper_after hn v) hrest⟩

theorem head?_not_blank (h : Respelled s t) (hs : ∀ c ∈ s.head?, isBlank c = false) : ∀ c ∈ t.head?, isBlank c = false := by
  cases h with
  | nil => exact hs
  | same c _ => exact hs
  | run _ hv _ =>
    obtain ⟨d, v, rfl, hd⟩ := hv.exists_cons
    intro c hc
    obtain rfl : d = c := Option.some.inj hc
    exact (isInline_iff.mp hd).1

theorem getLast?_not_blank (h : Respelled s t) (hs : ∀ c ∈ s.getLast?, isBlank c = false) :
    ∀ c ∈ t.getLast?, isBlank c = false := by
  rw [← List.head?_reverse] at hs ⊢
  exact head?_not_blank (h.reverse IsRun.reverse IsRun.reverse) hs

end Respelled

theorem isInline_of {p : Char → Bool} (hblank : blankCodes.all (fun n => !p (Char.ofNat n)) = true)
    (hnesting : ∀ d ∈ nestingChars, p d = false) {c : Char} (hc : p c = true) : isInline c = true := by
  refine isInline_iff.mpr ⟨Bool.eq_false_iff.mpr fun h => ?_, fun h => ?_⟩
  · have hnone := forall_blank (p := fun d => !p d) hblank h
    rw [hc] at hnone
    cases hnone
  · exact Bool.false_ne_true ((hnesting c h).symm.trans hc)

end Text

namespace Pixels

theorem isInline_ofPixels {i : Int} {c : Char} (h : c ∈ Text.ofInt i ++ "px".toList) : isInline c = true := by
  rcases List.mem_append.mp h with h | h
  · rcases mem_ofInt h with hc | rfl
    · exact isInline_of (p := Char.isDigit) (by decide) (by decide) hc
    · decide
  · exact (by decide : ∀ d ∈ "px".toList, isInline d = true) c h

theorem isInline_of_readEm {before : Option Char} {c : Char} {cs : Text} {extent : Nat} {numeral : Text}
    (h : readEm before c cs = some (extent, numeral)) {d : Char} (hd : d ∈ c :: cs.take extent) : isInline d = true := by
  rcases mem_of_readEm h hd with hnumeral | ⟨letter, hletter, hcase⟩
  · exact isInline_of (by decide) (by decide) hnumeral
  · refine isInline_of (p := fun d => "rem".toList.any fun letter => isLetterAnyCase letter d) (by decide) (by decide) ?_
    exact List.any_eq_true.mpr ⟨letter, hletter, hcase⟩

theorem respelled_convertEms {value text : Text} (h : convertEms value = .ok text) : Respelled value text := by
  obtain ⟨rfl, -⟩ := eq_rewrite_of_convertEms h
  refine Piece.replaced_rewrite none value fun source numeral hterm => ?_
  obtain ⟨i, hi⟩ := exists_emText_eq numeral
  obtain ⟨before, c, cs, extent, hread, rfl⟩ := Piece.exists_read_of_mem_ofText hterm
  exact ⟨⟨List.cons_ne_nil _ _, fun d hd => isInline_of_readEm hread hd⟩,
    by simp [hi], fun d hd => isInline_ofPixels (hi ▸ hd)⟩

end Pixels

namespace Value

theorem respelled_fillLeadingPoints (value : Text) : Respelled value (fillLeadingPoints value) := by
  refine Piece.replaced_rewrite none value fun text _ hterm => ?_
  obtain rfl := eq_of_leadingPoint hterm
  exact ⟨⟨List.cons_ne_nil _ _, by decide⟩, List.cons_ne_nil _ _, by decide⟩

theorem respelled_viewportToPercent (value : Text) : Respelled value (viewportToPercent value) := by
  refine Piece.replaced_rewrite none value fun text _ hterm => ?_
  exact ⟨(isRun_of_viewport hterm).mono (isInline_of (by decide) (by decide)), List.cons_ne_nil _ _, by decide⟩

theorem isBalanced_normalize (value : Text) : isBalanced (normalize value) = isBalanced value :=
  ((respelled_fillLeadingPoints value).isBalanced_eq.trans (respelled_viewportToPercent _).isBalanced_eq).symm

theorem isBalanced_firstWord_normalize (hvalue : isBlankText value = false) :
    isBalanced (firstWord (normalize value)) = isBalanced (firstWord value) := by
  have hfilled := fillLeadingPoints_not_blank hvalue
  have hfirst : Respelled (firstWord value) _ :=
    (respelled_fillLeadingPoints value).firstWord IsRun.not_isBlank IsRun.not_isBlank hvalue hfilled
  have hsecond : Respelled _ (firstWord (normalize value)) :=
    (respelled_viewportToPercent _).firstWord IsRun.not_isBlank IsRun.not_isBlank hfilled (normalize_not_blank hvalue)
  exact (hfirst.isBalanced_eq.trans hsecond.isBalanced_eq).symm

end Value

end UiToolkit
