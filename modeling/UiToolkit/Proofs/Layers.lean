import UiToolkit.Proofs.RelativeLengths
import UiToolkit.Proofs.Words

/-!
# The first part of a value

The first layer of a value runs to its first comma outside quotes and brackets, the first word to its first blank. A part is its own first part, and stays so when its relative lengths are converted: what is written for a term neither opens nor closes anything, and separates nothing.
-/

namespace UiToolkit

namespace Text

open Nesting

/-- The characters up to the first separator outside quotes and brackets. -/
def firstFrom (separator : Char) : Nesting → Text → Text
  | _, [] => []
  | n, c :: cs => if n.separates separator c then [] else c :: firstFrom separator (n.step c) cs

variable {separator : Char}

theorem splitFrom_eq_cons (separator : Char) (n : Nesting) (s : Text) :
    ∃ parts, splitFrom separator n s = firstFrom separator n s :: parts := by
  induction s generalizing n with
  | nil => exact ⟨[], rfl⟩
  | cons c cs ih =>
    obtain ⟨parts, hparts⟩ := ih (n.step c)
    rw [splitFrom, firstFrom]
    split
    · exact ⟨_, rfl⟩
    · rw [hparts]
      exact ⟨_, rfl⟩

theorem firstTopLevel_eq (separator : Char) (s : Text) : firstTopLevel separator s = firstFrom separator top s := by
  obtain ⟨parts, hparts⟩ := splitFrom_eq_cons separator top s
  rw [firstTopLevel, splitTopLevel, hparts]
  rfl

theorem exists_eq_firstFrom_append (separator : Char) (n : Nesting) (s : Text) :
    ∃ rest, s = firstFrom separator n s ++ rest ∧ ∀ c ∈ rest.head?, c = separator := by
  induction s generalizing n with
  | nil => exact ⟨[], rfl, fun c hc => by cases hc⟩
  | cons c cs ih =>
    rw [firstFrom]
    split
    · rename_i hseparates
      refine ⟨c :: cs, rfl, fun d hd => ?_⟩
      rw [← Option.some.inj hd]
      simp only [separates, Bool.and_eq_true, beq_iff_eq] at hseparates
      exact hseparates.1.1.1.1
    · obtain ⟨rest, hrest, hhead⟩ := ih (n.step c)
      exact ⟨rest, by rw [List.cons_append, ← hrest], hhead⟩

/-- No separator stands in the text outside quotes and brackets. -/
def IsWhole (separator : Char) (n : Nesting) (s : Text) : Prop := firstFrom separator n s = s

theorem isWhole_cons {n : Nesting} {c : Char} {cs : Text} :
    IsWhole separator n (c :: cs) ↔ n.separates separator c = false ∧ IsWhole separator (n.step c) cs := by
  rw [IsWhole, firstFrom]
  cases n.separates separator c with
  | true => simp
  | false => simp [IsWhole]

theorem isWhole_append {n : Nesting} {s t : Text} :
    IsWhole separator n (s ++ t) ↔ IsWhole separator n s ∧ IsWhole separator (n.after s) t := by
  induction s generalizing n with
  | nil => simp [IsWhole, firstFrom, after]
  | cons c cs ih => rw [List.cons_append, isWhole_cons, isWhole_cons, ih, and_assoc]; rfl

theorem firstFrom_append {n : Nesting} {s : Text} (h : IsWhole separator n s) (t : Text) :
    firstFrom separator n (s ++ t) = s ++ firstFrom separator (n.after s) t := by
  induction s generalizing n with
  | nil => rfl
  | cons c cs ih =>
    obtain ⟨hseparates, hrest⟩ := isWhole_cons.mp h
    rw [List.cons_append, firstFrom, hseparates, if_neg Bool.false_ne_true, ih hrest]
    rfl

theorem isWhole_firstFrom (separator : Char) (n : Nesting) (s : Text) : IsWhole separator n (firstFrom separator n s) := by
  induction s generalizing n with
  | nil => rfl
  | cons c cs ih =>
    rw [firstFrom]
    split
    · rfl
    · rename_i hseparates
      exact isWhole_cons.mpr ⟨Bool.eq_false_iff.mpr hseparates, ih (n.step c)⟩

theorem after_top_of_isBlank {c : Char} (hc : isBlank c = true) : top.step c = top := by
  have hall := forall_blank (p := fun c => decide (top.step c = top)) (by decide) hc
  exact of_decide_eq_true hall

theorem isWhole_trim {s : Text} (h : IsWhole separator top s) : IsWhole separator top (trim s) := by
  have hdrop : IsWhole separator top (s.dropWhile isBlank) := by
    induction s with
    | nil => exact h
    | cons c cs ih =>
      rw [List.dropWhile_cons]
      split
      · rename_i hc
        have htail := (isWhole_cons.mp h).2
        rw [after_top_of_isBlank hc] at htail
        exact ih htail
      · exact h
  obtain ⟨blanks, hblanks, -⟩ := exists_eq_dropEndWhile_append isBlank (s.dropWhile isBlank)
  rw [hblanks] at hdrop
  exact (isWhole_append.mp hdrop).1

theorem isWhole_quoted (closers : List Char) {s : Text} (hs : ∀ c ∈ s, c ≠ '"' ∧ c ≠ '\\') :
    IsWhole ',' ⟨closers, some '"', false⟩ s ∧
      (⟨closers, some '"', false⟩ : Nesting).after s = ⟨closers, some '"', false⟩ := by
  induction s with
  | nil => exact ⟨rfl, rfl⟩
  | cons c s ih =>
    obtain ⟨⟨hquote, hescape⟩, hs⟩ := List.forall_mem_cons.mp hs
    have hstep : (⟨closers, some '"', false⟩ : Nesting).step c = ⟨closers, some '"', false⟩ := by
      simp [step, hquote, hescape]
    have hseparates : (⟨closers, some '"', false⟩ : Nesting).separates ',' c = false := by simp [separates]
    obtain ⟨hwhole, hafter⟩ := ih hs
    refine ⟨isWhole_cons.mpr ⟨hseparates, by rwa [hstep]⟩, ?_⟩
    rw [after, List.foldl_cons, hstep]
    exact hafter

theorem firstTopLevel_of_isWhole {s : Text} (h : IsWhole separator top s) : firstTopLevel separator s = s := by
  rw [firstTopLevel_eq, h]

/-! ### All parts -/

/-- Outside quotes nothing is hidden. -/
def Nesting.IsSettled (n : Nesting) : Prop := n.quote = none → n.hidden = false

theorem Nesting.isSettled_step {n : Nesting} (h : n.IsSettled) (c : Char) : (n.step c).IsSettled := by
  intro hquote
  cases hq : n.quote with
  | none =>
    have hhidden := h hq
    simp only [step, hq]
    repeat' split
    all_goals exact hhidden
  | some q =>
    simp only [step, hq] at hquote ⊢
    grind

theorem Nesting.eq_top_of_separates {n : Nesting} (h : n.IsSettled) {c : Char} (hseparates : n.separates separator c = true) :
    n = top := by
  simp only [separates, Bool.and_eq_true, List.isEmpty_iff, Option.isNone_iff_eq_none] at hseparates
  obtain ⟨⟨⟨⟨-, hquote⟩, hclosers⟩, -⟩, -⟩ := hseparates
  obtain ⟨closers, quote, hidden⟩ := n
  rw [show closers = [] from hclosers, show quote = none from hquote, show hidden = false from h hquote]
  rfl

/-- A part behind a separator is read from the top level, as the separator stands there. -/
theorem isWhole_of_mem_tail_splitFrom {n : Nesting} (hn : n.IsSettled) {s part : Text}
    (h : part ∈ (splitFrom separator n s).tail) : IsWhole separator top part := by
  induction s generalizing n with
  | nil => cases h
  | cons c cs ih =>
    rw [splitFrom] at h
    split at h
    · rename_i hseparates
      obtain rfl := eq_top_of_separates hn hseparates
      obtain ⟨parts, hparts⟩ := splitFrom_eq_cons separator top cs
      rw [List.tail_cons, hparts] at h
      rcases List.mem_cons.mp h with rfl | hmem
      · exact isWhole_firstFrom separator top cs
      · apply ih hn
        rwa [hparts]
    · obtain ⟨parts, hparts⟩ := splitFrom_eq_cons separator (n.step c) cs
      rw [hparts] at h
      apply ih (isSettled_step hn c)
      rwa [hparts]

theorem isWhole_of_mem_splitTopLevel {s part : Text} (h : part ∈ splitTopLevel separator s) : IsWhole separator top part := by
  obtain ⟨parts, hparts⟩ := splitFrom_eq_cons separator top s
  rw [splitTopLevel, hparts] at h
  rcases List.mem_cons.mp h with rfl | hmem
  · exact isWhole_firstFrom separator top s
  · apply isWhole_of_mem_tail_splitFrom (n := top) (fun _ => rfl) (s := s)
    rwa [hparts]

theorem splitFrom_of_isWhole {n : Nesting} {s : Text} (h : IsWhole separator n s) : splitFrom separator n s = [s] := by
  induction s generalizing n with
  | nil => rfl
  | cons c cs ih =>
    obtain ⟨hseparates, hrest⟩ := isWhole_cons.mp h
    rw [splitFrom, hseparates, ih hrest]
    rfl

/-- A text is its only part just when nothing in it separates. -/
theorem splitTopLevel_eq_singleton_iff {s : Text} : splitTopLevel separator s = [s] ↔ IsWhole separator top s :=
  ⟨fun h => isWhole_of_mem_splitTopLevel (h ▸ List.mem_singleton_self s), splitFrom_of_isWhole⟩

/-! ### Runs that make no difference -/

/-- The characters that open, close, hide or separate. -/
def nestingChars : Text := "'\"\\()[],"

/-- Only quotes are waited for inside quotes, and only closers inside brackets. -/
structure Nesting.IsProper (n : Nesting) : Prop where
  quote : ∀ q ∈ n.quote, q ∈ nestingChars
  closers : ∀ c ∈ n.closers, c ∈ nestingChars

theorem Nesting.isProper_top : top.IsProper := ⟨nofun, nofun⟩

theorem Nesting.isProper_step {n : Nesting} (h : n.IsProper) (c : Char) : (n.step c).IsProper := by
  unfold step
  split
  · rename_i q hq
    split
    · exact ⟨h.quote, h.closers⟩
    · split
      · exact ⟨h.quote, h.closers⟩
      · split
        · exact ⟨fun q hq => (by cases hq), h.closers⟩
        · exact h
  · split
    · rename_i hquote
      refine ⟨fun q hq => ?_, h.closers⟩
      rw [← Option.some.inj hq]
      rcases Bool.or_eq_true_iff.mp hquote with hc | hc <;> rw [beq_iff_eq.mp hc] <;> decide
    · split
      · rename_i closer hcloser
        refine ⟨h.quote, List.forall_mem_cons.mpr ⟨?_, h.closers⟩⟩
        unfold closerOf? at hcloser
        split at hcloser
        · cases hcloser
          decide
        · split at hcloser
          · cases hcloser
            decide
          · cases hcloser
      · split
        · exact ⟨h.quote, fun c hc => h.closers c (List.mem_of_mem_tail hc)⟩
        · exact h

theorem Nesting.isProper_after {n : Nesting} (h : n.IsProper) (s : Text) : (n.after s).IsProper := by
  induction s generalizing n with
  | nil => exact h
  | cons c cs ih => exact ih (isProper_step h c)

theorem Nesting.step_plain {n : Nesting} (h : n.IsProper) {c : Char} (hc : c ∉ nestingChars) :
    n.step c = if n.quote.isSome then { n with hidden := false } else n := by
  have hne : ∀ d ∈ nestingChars, c ≠ d := fun d hd heq => hc (heq ▸ hd)
  cases hquote : n.quote with
  | some q =>
    have hq := h.quote q hquote
    cases hhidden : n.hidden with
    | true => simp [step, hquote, hhidden]
    | false =>
      simp only [step, hquote, hhidden, Bool.false_eq_true, if_false, beq_iff_eq, hne '\\' (by decide), hne q hq]
      cases n
      simp_all
  | none =>
    have hclosers : (n.closers.head? == some c) = false := by
      refine beq_false_of_ne fun heq => ?_
      exact hc (h.closers c (List.mem_of_mem_head? heq))
    simp [step, hquote, isQuote, closerOf?, hne '\'' (by decide), hne '"' (by decide), hne '(' (by decide),
      hne '[' (by decide), hclosers]

theorem Nesting.after_plain {n : Nesting} (h : n.IsProper) {run : Text} (hne : run ≠ [])
    (hrun : ∀ c ∈ run, c ∉ nestingChars) : n.after run = if n.quote.isSome then { n with hidden := false } else n := by
  induction run generalizing n with
  | nil => exact absurd rfl hne
  | cons c cs ih =>
    obtain ⟨hc, hcs⟩ := List.forall_mem_cons.mp hrun
    have hafter : n.after (c :: cs) = (n.step c).after cs := rfl
    cases cs with
    | nil => exact hafter.trans (step_plain h hc)
    | cons d cs =>
      rw [hafter, ih (isProper_step h c) (List.cons_ne_nil d cs) hcs, step_plain h hc]
      cases hquote : n.quote.isSome with
      | true => simp [hquote]
      | false => simp [hquote]

theorem isWhole_plain {n : Nesting} (h : n.IsProper) {run : Text} (hrun : ∀ c ∈ run, c ∉ nestingChars) :
    IsWhole ',' n run := by
  induction run generalizing n with
  | nil => rfl
  | cons c cs ih =>
    obtain ⟨hc, hcs⟩ := List.forall_mem_cons.mp hrun
    refine isWhole_cons.mpr ⟨?_, ih (isProper_step h c) hcs⟩
    have hcomma : c ≠ ',' := by
      rintro rfl
      exact hc (by decide)
    rw [separates, beq_false_of_ne hcomma]
    rfl

end Text

namespace Piece

open Text Nesting

variable {α : Type}

/-- A term without nesting characters, that is written without them. -/
def IsPlainly (write : α → Text) : Piece α → Prop
  | .term text meaning =>
    text ≠ [] ∧ write meaning ≠ [] ∧ (∀ c ∈ text, c ∉ nestingChars) ∧ ∀ c ∈ write meaning, c ∉ nestingChars
  | _ => True

/-- A pass over such terms adds no layer. -/
theorem isWhole_rewrite {write : α → Text} {pieces : List (Piece α)} (h : ∀ p ∈ pieces, p.IsPlainly write) {n : Nesting}
    (hn : n.IsProper) (hwhole : IsWhole ',' n (pieces.flatMap source)) : IsWhole ',' n (rewrite write pieces) := by
  induction pieces generalizing n with
  | nil => rfl
  | cons p pieces ih =>
    obtain ⟨hp, hrest⟩ := List.forall_mem_cons.mp h
    rw [List.flatMap_cons, isWhole_append] at hwhole
    cases p with
    | guarded span => exact isWhole_append.mpr ⟨hwhole.1, ih hrest (isProper_after hn span) hwhole.2⟩
    | plain c => exact isWhole_append.mpr ⟨hwhole.1, ih hrest (isProper_step hn c) hwhole.2⟩
    | term text meaning =>
      obtain ⟨htext, hwritten, hplain, hplainWritten⟩ := hp
      rw [rewrite_term, isWhole_append]
      refine ⟨isWhole_plain hn hplainWritten, ?_⟩
      have hsame : n.after text = n.after (write meaning) :=
        (after_plain hn htext hplain).trans (after_plain hn hwritten hplainWritten).symm
      exact ih hrest (isProper_after hn _) (hsame ▸ hwhole.2)

end Piece

namespace Pixels

open Text Nesting

theorem not_mem_nestingChars_of_readEm {before : Option Char} {c : Char} {cs : Text} {extent : Nat} {numeral : Text}
    (h : readEm before c cs = some (extent, numeral)) {d : Char} (hd : d ∈ c :: cs.take extent) : d ∉ nestingChars := by
  intro hmem
  rcases mem_of_readEm h hd with hnumeral | ⟨letter, hletter, hcase⟩
  · have hnone : ∀ e ∈ nestingChars, Numeral.isNumeralChar e = false := by decide
    rw [hnone d hmem] at hnumeral
    cases hnumeral
  · have hnone : ∀ letter ∈ "rem".toList, ∀ e ∈ nestingChars, isLetterAnyCase letter e = false := by decide
    rw [hnone letter hletter d hmem] at hcase
    cases hcase

theorem not_mem_nestingChars_of_mem_emText {numeral : Text} {c : Char} (hc : c ∈ emText numeral) : c ∉ nestingChars := by
  intro hmem
  have hnone : ∀ e ∈ nestingChars, continuesTerm e = false := by decide
  exact absurd (mem_emText hc).1 (by rw [hnone c hmem]; exact Bool.false_ne_true)

theorem isWhole_convertEms {s text : Text} (h : convertEms s = .ok text) (hs : IsWhole ',' top s) : IsWhole ',' top text := by
  obtain ⟨rfl, -⟩ := eq_rewrite_of_convertEms h
  refine Piece.isWhole_rewrite (fun p hp => ?_) isProper_top ?_
  · cases p with
    | guarded span => trivial
    | plain c => trivial
    | term source numeral =>
      obtain ⟨i, hi⟩ := exists_emText_eq numeral
      obtain ⟨before, c, cs, extent, hread, rfl⟩ := Piece.exists_read_of_mem_ofText hp
      exact ⟨List.cons_ne_nil _ _, by rw [hi]; simp, fun d hd => not_mem_nestingChars_of_readEm hread hd,
        fun d hd => not_mem_nestingChars_of_mem_emText hd⟩
  · rwa [Piece.scan, Piece.flatMap_source_ofText]

theorem not_isBlank_convertEms {s text : Text} (h : convertEms s = .ok text) (hs : ∀ c ∈ s, isBlank c = false) :
    ∀ c ∈ text, isBlank c = false := by
  obtain ⟨rfl, -⟩ := eq_rewrite_of_convertEms h
  intro c hc
  obtain ⟨p, hp, hc⟩ := List.mem_flatMap.mp hc
  have hsource : c ∈ p.source → c ∈ s := fun hmem => by
    rw [← Piece.flatMap_source_ofText readEm none s]
    exact List.mem_flatMap.mpr ⟨p, hp, hmem⟩
  cases p with
  | guarded span => exact hs c (hsource hc)
  | plain d => exact hs c (hsource hc)
  | term text numeral =>
    refine Bool.eq_false_iff.mpr fun hblank => ?_
    have hother := forall_blank (p := fun d => !(d == '.' || d == '-')) (by decide) hblank
    have hcontinues := (mem_emText hc).1
    rw [continuesTerm, isWordChar_of_isBlank hblank, Bool.false_or] at hcontinues
    rw [hcontinues] at hother
    cases hother

end Pixels

end UiToolkit
