import Mathlib.Data.List.TakeWhile
import Mathlib.Data.Option.Basic
import UiToolkit.Proofs.Runs
import UiToolkit.Proofs.Words
import UiToolkit.StyleSheet.Source

/-!
# Braces and semicolons outside quotes

Which characters of a value stand outside its closed quoted strings depends on the quotes, the backslashes and the line feeds in it, and on nothing else. So a value that is safe stays safe when runs of ordinary characters give way to other such runs, and when blanks are cut off at its ends.
-/

namespace UiToolkit.Declaration

open Text

/-- What follows the next closing `quote`. -/
def afterQuote? (quote : Char) (s : Text) : Option Text := (closingQuote? quote s).map s.drop

/-- What follows the next closing `quote` when a backslash stands before the text. -/
def afterEscaped? (quote : Char) : Text → Option Text
  | [] => none
  | c :: cs => if c = '\n' then none else afterQuote? quote cs

@[simp] theorem afterQuote?_nil (quote : Char) : afterQuote? quote [] = none := rfl

theorem afterQuote?_backslash (quote : Char) (s : Text) : afterQuote? quote ('\\' :: s) = afterEscaped? quote s := by
  cases s with
  | nil => rfl
  | cons c cs =>
    by_cases hc : c = '\n'
    · subst hc
      rfl
    · rw [afterEscaped?, if_neg hc, afterQuote?, afterQuote?, closingQuote?.eq_3 _ _ _ (by simpa using hc), Option.map_map]
      rfl

theorem afterQuote?_cons {quote c : Char} {cs : Text} (hc : c ≠ '\\') :
    afterQuote? quote (c :: cs) = if c = quote then some cs else afterQuote? quote cs := by
  rw [afterQuote?, afterQuote?, closingQuote?.eq_5 _ _ _ (fun _ h _ => hc h) (fun _ _ h _ => hc h) (fun h _ => hc h)]
  by_cases hquote : c = quote
  · rw [if_pos (beq_iff_eq.mpr hquote), if_pos hquote]
    rfl
  · rw [if_neg (by simpa using hquote), if_neg hquote, Option.map_map]
    rfl

theorem length_afterQuote? {quote : Char} {s rest : Text} (h : afterQuote? quote s = some rest) :
    rest.length ≤ s.length := by
  obtain ⟨n, -, rfl⟩ := Option.map_eq_some_iff.mp h
  simp

/-- What follows the closed quoted string that `c` opens. -/
def afterString? (c : Char) (cs : Text) : Option Text :=
  if c == '"' || c == '\'' then afterQuote? c cs else none

theorem breaksOut_nil : breaksOut [] = false := by
  rw [breaksOut, dropQuoted]
  rfl

theorem afterString?_eq_map (c : Char) (cs : Text) : afterString? c cs = (quotedExtent? c cs).map cs.drop := by
  unfold afterString? quotedExtent? afterQuote?
  split <;> rfl

theorem breaksOut_cons (c : Char) (cs : Text) :
    breaksOut (c :: cs) = match afterString? c cs with
      | some rest => breaksOut rest
      | none => isStructural c || breaksOut cs := by
  rw [breaksOut, dropQuoted, afterString?_eq_map]
  cases quotedExtent? c cs <;> rfl

theorem length_afterString? {c : Char} {cs rest : Text} (h : afterString? c cs = some rest) :
    rest.length ≤ cs.length := by
  unfold afterString? at h
  split at h
  · exact length_afterQuote? h
  · cases h

/-! ### Ordinary characters -/

/-- The characters that decide where quoted strings and calls end, or that break out. -/
def significant : Text := "\"'\\\n\x7b\x7d;()"

def isOrdinary (c : Char) : Bool := !significant.contains c

theorem isOrdinary_of {p : Char → Bool} (h : ∀ c ∈ significant, p c = false) {c : Char} (hc : p c = true) :
    isOrdinary c = true := by
  rw [isOrdinary, Bool.not_eq_true', ← Bool.not_eq_true, List.contains_iff_mem]
  exact fun hmem => Bool.false_ne_true ((h c hmem).symm.trans hc)

theorem ne_of_isOrdinary {c d : Char} (hc : isOrdinary c = true) (hd : isOrdinary d = false) : c ≠ d := by
  rintro rfl
  exact Bool.false_ne_true (hd.symm.trans hc)

theorem not_isStructural_of_isOrdinary {c : Char} (hc : isOrdinary c = true) : isStructural c = false := by
  rw [isStructural, beq_false_of_ne (ne_of_isOrdinary hc rfl), beq_false_of_ne (ne_of_isOrdinary hc rfl),
    beq_false_of_ne (ne_of_isOrdinary hc rfl)]
  rfl

theorem afterString?_of_isOrdinary {c : Char} {cs : Text} (hc : isOrdinary c = true) : afterString? c cs = none := by
  rw [afterString?, beq_false_of_ne (ne_of_isOrdinary hc rfl), beq_false_of_ne (ne_of_isOrdinary hc rfl)]
  rfl

theorem afterQuote?_ordinary {quote : Char} (hquote : isOrdinary quote = false) {run : Text}
    (hrun : ∀ c ∈ run, isOrdinary c = true) (s : Text) : afterQuote? quote (run ++ s) = afterQuote? quote s := by
  induction run with
  | nil => rfl
  | cons c run ih =>
    obtain ⟨hc, hrest⟩ := List.forall_mem_cons.mp hrun
    rw [List.cons_append, afterQuote?_cons (ne_of_isOrdinary hc rfl), if_neg (ne_of_isOrdinary hc hquote), ih hrest]

theorem breaksOut_ordinary {run : Text} (hrun : ∀ c ∈ run, isOrdinary c = true) (s : Text) :
    breaksOut (run ++ s) = breaksOut s := by
  induction run with
  | nil => rfl
  | cons c run ih =>
    obtain ⟨hc, hrest⟩ := List.forall_mem_cons.mp hrun
    rw [List.cons_append, breaksOut_cons, afterString?_of_isOrdinary hc]
    simp only [not_isStructural_of_isOrdinary hc, Bool.false_or]
    exact ih hrest

theorem breaksOut_of_ordinary {s : Text} (hs : ∀ c ∈ s, isOrdinary c = true) : breaksOut s = false := by
  rw [← List.append_nil s, breaksOut_ordinary hs, breaksOut_nil]

/-- Text without braces and semicolons is safe however it is quoted. -/
theorem breaksOut_of_not_isStructural {s : Text} (hs : ∀ c ∈ s, isStructural c = false) : breaksOut s = false := by
  induction hlength : s.length using Nat.strongRecOn generalizing s with
  | ind n ih =>
    cases s with
    | nil => exact breaksOut_nil
    | cons c cs =>
      obtain ⟨hc, hcs⟩ := List.forall_mem_cons.mp hs
      rw [List.length_cons] at hlength
      rw [breaksOut_cons]
      cases hafter : afterString? c cs with
      | none =>
        simp only [hc, Bool.false_or]
        exact ih cs.length (by omega) hcs rfl
      | some rest =>
        have hshort := length_afterString? hafter
        have hsub : rest <:+ cs := by
          unfold afterString? afterQuote? at hafter
          split at hafter
          · obtain ⟨k, -, rfl⟩ := Option.map_eq_some_iff.mp hafter
            exact List.drop_suffix k cs
          · cases hafter
        exact ih rest.length (by omega) (fun x hx => hcs x (hsub.mem hx)) rfl

/-! ### Runs that give way to others -/

/-- The letters of the words that are looked for in a value with the bracket after them: of `url`, `resource` and `gradient`. -/
def callLetters : Text := "urlesocgadint("

/-- An ordinary character that is part of no word with a bracket after it. -/
def isInert (c : Char) : Bool := isOrdinary c && !isBlank c && callLetters.all fun letter => !isLetterAnyCase letter c

theorem isOrdinary_of_isInert {c : Char} (hc : isInert c = true) : isOrdinary c = true :=
  (Bool.and_eq_true_iff.mp (Bool.and_eq_true_iff.mp hc).1).1

theorem isInert_of_isDigit {c : Char} (hc : c.isDigit = true) : isInert c = true := by
  have hdigits : (!c.isDigit || isInert c) = true :=
    forall_ascii (p := fun d => !d.isDigit || isInert d) (by decide) (toNat_lt_of_isDigit hc)
  simpa [hc] using hdigits

/-- The second text has inert runs where the first has ordinary ones. -/
abbrev Recast : Text → Text → Prop := Replaced (IsRun isOrdinary) (IsRun isInert)

namespace Recast

theorem afterEscaped?_ordinary {quote : Char} (hquote : isOrdinary quote = false) {run : Text} (hrun : IsRun isOrdinary run)
    (s : Text) : afterEscaped? quote (run ++ s) = afterQuote? quote s := by
  obtain ⟨c, rest, rfl, hc⟩ := hrun.exists_cons
  rw [List.cons_append, afterEscaped?, if_neg (ne_of_isOrdinary hc rfl),
    afterQuote?_ordinary hquote (List.forall_mem_cons.mp hrun.all).2]

/-- Quoted strings close at corresponding places. -/
theorem afterQuote? {quote : Char} (hquote : isOrdinary quote = false) {s t : Text} (h : Recast s t) :
    Option.Rel Recast (Declaration.afterQuote? quote s) (Declaration.afterQuote? quote t) ∧
      Option.Rel Recast (afterEscaped? quote s) (afterEscaped? quote t) := by
  induction h with
  | nil => exact ⟨.none, .none⟩
  | @same c s t h ih =>
    constructor
    · by_cases hc : c = '\\'
      · subst hc
        rw [afterQuote?_backslash, afterQuote?_backslash]
        exact ih.2
      · rw [afterQuote?_cons hc, afterQuote?_cons hc]
        split
        · exact .some h
        · exact ih.1
    · rw [afterEscaped?, afterEscaped?]
      split
      · exact .none
      · exact ih.1
  | run hu hv _ ih =>
    have hwritten := hv.mono isOrdinary_of_isInert
    rw [afterQuote?_ordinary hquote hu.all, afterQuote?_ordinary hquote hwritten.all,
      afterEscaped?_ordinary hquote hu, afterEscaped?_ordinary hquote hwritten]
    exact ⟨ih.1, ih.1⟩

theorem afterString? {c : Char} {s t : Text} (h : Recast s t) :
    Option.Rel Recast (Declaration.afterString? c s) (Declaration.afterString? c t) := by
  unfold Declaration.afterString?
  split
  · rename_i hc
    rcases Bool.or_eq_true_iff.mp hc with hc | hc
    · cases beq_iff_eq.mp hc
      exact (afterQuote? rfl h).1
    · cases beq_iff_eq.mp hc
      exact (afterQuote? rfl h).1
  · exact .none

theorem breaksOut {s t : Text} (h : Recast s t) : Declaration.breaksOut s = Declaration.breaksOut t := by
  induction hlength : s.length using Nat.strongRecOn generalizing s t with
  | ind n ih =>
    cases h with
    | nil => rfl
    | @same c s t h =>
      rw [List.length_cons] at hlength
      rw [breaksOut_cons, breaksOut_cons]
      have hrel := afterString? (c := c) h
      cases hs : Declaration.afterString? c s with
      | none =>
        rw [hs] at hrel
        cases ht : Declaration.afterString? c t with
        | none => exact congrArg (isStructural c || ·) (ih s.length (by omega) h rfl)
        | some _ =>
          rw [ht] at hrel
          cases hrel
      | some rest =>
        have hshort := length_afterString? hs
        rw [hs] at hrel
        cases ht : Declaration.afterString? c t with
        | none =>
          rw [ht] at hrel
          cases hrel
        | some rest' =>
          rw [ht] at hrel
          cases hrel with
          | some hrest => exact ih rest.length (by omega) hrest rfl
    | @run u v s t hu hv h =>
      have hpos := List.length_pos_iff.mpr hu.ne_nil
      rw [List.length_append] at hlength
      rw [breaksOut_ordinary hu.all, breaksOut_ordinary (hv.mono isOrdinary_of_isInert).all]
      exact ih s.length (by omega) h rfl

end Recast

/-! ### Blanks at the ends -/

theorem afterQuote?_blank {quote : Char} (hquote : isBlank quote = false) {blanks : Text}
    (hblanks : ∀ c ∈ blanks, isBlank c = true) : afterQuote? quote blanks = none := by
  induction blanks with
  | nil => rfl
  | cons c blanks ih =>
    obtain ⟨hc, hrest⟩ := List.forall_mem_cons.mp hblanks
    have hbackslash : c ≠ '\\' := by
      rintro rfl
      exact absurd hc (by decide)
    have hne : c ≠ quote := by
      rintro rfl
      exact Bool.false_ne_true (hquote.symm.trans hc)
    rw [afterQuote?_cons hbackslash, if_neg hne, ih hrest]

theorem afterQuote?_append_blank {quote : Char} (hquote : isBlank quote = false) (s : Text) {blanks : Text}
    (hblanks : ∀ c ∈ blanks, isBlank c = true) :
    afterQuote? quote (s ++ blanks) = (afterQuote? quote s).map (· ++ blanks) := by
  induction hlength : s.length using Nat.strongRecOn generalizing s with
  | ind n ih =>
    cases s with
    | nil => exact afterQuote?_blank hquote hblanks
    | cons c s =>
      rw [List.length_cons] at hlength
      by_cases hc : c = '\\'
      · subst hc
        rw [List.cons_append, afterQuote?_backslash, afterQuote?_backslash]
        cases s with
        | nil =>
          cases blanks with
          | nil => rfl
          | cons b blanks =>
            change (if b = '\n' then none else afterQuote? quote blanks) = none
            split
            · rfl
            · exact afterQuote?_blank hquote (List.forall_mem_cons.mp hblanks).2
        | cons d s =>
          rw [List.length_cons] at hlength
          rw [List.cons_append, afterEscaped?, afterEscaped?]
          split
          · rfl
          · exact ih s.length (by omega) s rfl
      · rw [List.cons_append, afterQuote?_cons hc, afterQuote?_cons hc]
        split
        · rfl
        · exact ih s.length (by omega) s rfl

theorem isStructural_of_isBlank {c : Char} (hc : isBlank c = true) : isStructural c = false := by
  by_contra hstructural
  simp only [isStructural, Bool.not_eq_false, Bool.or_eq_true, beq_iff_eq] at hstructural
  rcases hstructural with (rfl | rfl) | rfl <;> exact absurd hc (by decide)

theorem afterString?_of_isBlank {c : Char} {cs : Text} (hc : isBlank c = true) : afterString? c cs = none := by
  rw [afterString?, if_neg]
  simp only [Bool.or_eq_true, beq_iff_eq]
  rintro (rfl | rfl) <;> exact absurd hc (by decide)

theorem breaksOut_of_isBlank {blanks : Text} (hblanks : ∀ c ∈ blanks, isBlank c = true) : breaksOut blanks = false :=
  breaksOut_of_not_isStructural fun c hc => isStructural_of_isBlank (hblanks c hc)

theorem breaksOut_append_blank (s : Text) {blanks : Text} (hblanks : ∀ c ∈ blanks, isBlank c = true) :
    breaksOut (s ++ blanks) = breaksOut s := by
  induction hlength : s.length using Nat.strongRecOn generalizing s with
  | ind n ih =>
    cases s with
    | nil => rw [List.nil_append, breaksOut_of_isBlank hblanks, breaksOut_nil]
    | cons c s =>
      rw [List.length_cons] at hlength
      have hafter : afterString? c (s ++ blanks) = (afterString? c s).map (· ++ blanks) := by
        unfold afterString?
        split
        · rename_i hc
          refine afterQuote?_append_blank ?_ s hblanks
          simp only [Bool.or_eq_true, beq_iff_eq] at hc
          rcases hc with rfl | rfl <;> rfl
        · rfl
      rw [List.cons_append, breaksOut_cons, breaksOut_cons, hafter]
      cases hrest : afterString? c s with
      | none => exact congrArg (isStructural c || ·) (ih s.length (by omega) s rfl)
      | some rest =>
        have hshort := length_afterString? hrest
        exact ih rest.length (by omega) rest rfl

theorem breaksOut_dropWhile_blank (s : Text) : breaksOut (s.dropWhile isBlank) = breaksOut s := by
  induction s with
  | nil => rfl
  | cons c s ih =>
    rw [List.dropWhile_cons]
    split
    · rename_i hc
      rw [ih, breaksOut_cons, afterString?_of_isBlank hc]
      simp only [isStructural_of_isBlank hc, Bool.false_or]
    · rfl

theorem breaksOut_trim (s : Text) : breaksOut (trim s) = breaksOut s := by
  obtain ⟨ending, hsplit, hblank⟩ := exists_eq_dropEndWhile_append isBlank (s.dropWhile isBlank)
  calc breaksOut (trim s)
      = breaksOut (dropEndWhile isBlank (s.dropWhile isBlank) ++ ending) := (breaksOut_append_blank _ hblank).symm
    _ = breaksOut (s.dropWhile isBlank) := congrArg _ hsplit.symm
    _ = breaksOut s := breaksOut_dropWhile_blank s

end UiToolkit.Declaration
