import UiToolkit.Proofs.Balance

/-!
# Splitting a text

The parts of a text, put together with the separator between them, are the text, and none of them can be split again. A separator ends a part exactly when nothing is open in front of it, and what comes behind it is then split for itself: the place reached there is the place that every text begins at. That holds of unclosed brackets and quotes and of stray closers as well.
-/

namespace UiToolkit.Text

open Nesting

variable {separator : Char} {n : Nesting}

/-! ### Separators -/

theorem Nesting.step_of_separates (hn : n.IsSettled) {c : Char} (h : n.separates separator c = true) : n.step c = n := by
  obtain rfl := eq_top_of_separates hn h
  simp only [separates, Bool.and_eq_true, Bool.not_eq_true', Option.isNone_iff_eq_none] at h
  obtain ⟨⟨-, hquote⟩, hopener⟩ := h
  simp [step, top, hquote, hopener]

theorem Nesting.eq_of_separates {c : Char} (h : n.separates separator c = true) : c = separator := by
  simp only [separates, Bool.and_eq_true, beq_iff_eq] at h
  exact h.1.1.1.1

theorem Nesting.separates_of_ne {c : Char} (h : c ≠ separator) (n : Nesting) : n.separates separator c = false := by
  rw [separates, beq_false_of_ne h]
  rfl

/-- Where a character that opens nothing would separate, all that was opened is closed. -/
theorem separates_after_iff (hquote : isQuote separator = false) (hopener : closerOf? separator = none) (s : Text) :
    (top.after s).separates separator separator = true ↔ isBalanced s = true := by
  simp [separates, isBalanced, hquote, hopener, and_comm]

/-! ### Joining the parts -/

theorem joinWith_cons_cons (separator first second : Text) (parts : List Text) :
    joinWith separator (first :: second :: parts) = first ++ separator ++ joinWith separator (second :: parts) := by
  simp [joinWith_cons]

theorem joinWith_splitFrom (separator : Char) (n : Nesting) (s : Text) : joinWith [separator] (splitFrom separator n s) = s := by
  induction s generalizing n with
  | nil => rfl
  | cons c cs ih =>
    rw [splitFrom]
    split
    · rename_i hseparates
      obtain ⟨parts, hparts⟩ := splitFrom_eq_cons separator n cs
      have hjoin := ih n
      rw [hparts] at hjoin ⊢
      rw [joinWith_cons_cons, hjoin, eq_of_separates hseparates]
      rfl
    · obtain ⟨parts, hparts⟩ := splitFrom_eq_cons separator (n.step c) cs
      have hjoin := ih (n.step c)
      rw [hparts] at hjoin ⊢
      rw [joinWith_cons] at hjoin ⊢
      exact congrArg (c :: ·) hjoin

/-! ### Splitting in two steps -/

/-- The last part of a text goes on into the first part of what follows; the other parts are those of the two texts. -/
theorem exists_splitFrom_append (separator : Char) (hn : n.IsSettled) (a : Text) :
    ∃ parts last, splitFrom separator n a = parts ++ [last] ∧
      ∀ b first rest, splitFrom separator (n.after a) b = first :: rest →
        splitFrom separator n (a ++ b) = parts ++ (last ++ first) :: rest := by
  induction a generalizing n with
  | nil => exact ⟨[], [], rfl, fun b first rest h => h⟩
  | cons c a ih =>
    obtain ⟨parts, last, ha, happend⟩ := ih (isSettled_step hn c)
    cases hseparates : n.separates separator c with
    | true =>
      -- The separator leads back to where it was found, so what is known of the rest from there holds behind it as well.
      have hstep := step_of_separates hn hseparates
      rw [hstep] at ha happend
      refine ⟨[] :: parts, last, ?_, fun b first rest h => ?_⟩
      · rw [splitFrom, hseparates, if_pos rfl, ha]
        rfl
      · rw [after, List.foldl_cons, hstep] at h
        rw [List.cons_append, splitFrom, hseparates, if_pos rfl, happend b first rest h]
        rfl
    | false =>
      cases parts with
      | nil =>
        refine ⟨[], c :: last, ?_, fun b first rest h => ?_⟩
        · rw [splitFrom, hseparates, ha]
          rfl
        · rw [List.cons_append, splitFrom, hseparates, happend b first rest h]
          rfl
      | cons part parts =>
        refine ⟨(c :: part) :: parts, last, ?_, fun b first rest h => ?_⟩
        · rw [splitFrom, hseparates, ha]
          rfl
        · rw [List.cons_append, splitFrom, hseparates, happend b first rest h]
          rfl

theorem splitTopLevel_append_of_separates {a : Text} (h : (top.after a).separates separator separator = true) (b : Text) :
    splitTopLevel separator (a ++ separator :: b) = splitTopLevel separator a ++ splitTopLevel separator b := by
  have hsettled : top.IsSettled := fun _ => rfl
  obtain ⟨parts, last, ha, happend⟩ := exists_splitFrom_append separator hsettled a
  have htop := eq_top_of_separates (isSettled_after hsettled a) h
  have hb : splitFrom separator (top.after a) (separator :: b) = [] :: splitFrom separator top b := by
    rw [splitFrom, h, if_pos rfl, htop]
  rw [splitTopLevel, happend _ _ _ hb, splitTopLevel, ha, splitTopLevel]
  simp

theorem splitTopLevel_append_separator_iff {a : Text} :
    splitTopLevel separator (a ++ [separator]) = splitTopLevel separator a ++ [[]] ↔
      (top.after a).separates separator separator = true := by
  refine ⟨fun h => ?_, fun h => splitTopLevel_append_of_separates h []⟩
  by_contra hseparates
  have hsettled : top.IsSettled := fun _ => rfl
  obtain ⟨parts, last, ha, happend⟩ := exists_splitFrom_append separator hsettled a
  have hone : splitFrom separator (top.after a) [separator] = [[separator]] := by
    rw [splitFrom, if_neg hseparates]
    rfl
  rw [splitTopLevel, happend _ _ _ hone, splitTopLevel, ha] at h
  simpa using congrArg List.length h

/-! ### The laws of splitting -/

/--
The parts joined by the separator are the text, and each part is its own only part. A separator at the end of a text ends a part exactly if whatever follows it is split for itself, which, for a character that opens nothing, is so exactly if the text is balanced.
-/
theorem splitTopLevel_exact (separator : Char) :
    (∀ s, joinWith [separator] (splitTopLevel separator s) = s) ∧
      (∀ s, ∀ part ∈ splitTopLevel separator s, splitTopLevel separator part = [part]) ∧
      (∀ a, splitTopLevel separator (a ++ [separator]) = splitTopLevel separator a ++ [[]] ↔
        ∀ b, splitTopLevel separator (a ++ separator :: b) = splitTopLevel separator a ++ splitTopLevel separator b) ∧
      (isQuote separator = false → closerOf? separator = none →
        ∀ a, splitTopLevel separator (a ++ [separator]) = splitTopLevel separator a ++ [[]] ↔ isBalanced a = true) := by
  refine ⟨joinWith_splitFrom separator top, fun s part hpart => ?_, fun a => ⟨fun h b => ?_, fun h => h []⟩,
    fun hquote hopener a => ?_⟩
  · exact splitFrom_of_isWhole (isWhole_of_mem_splitTopLevel hpart)
  · exact splitTopLevel_append_of_separates (splitTopLevel_append_separator_iff.mp h) b
  · exact splitTopLevel_append_separator_iff.trans (separates_after_iff hquote hopener a)

/-- A stray closer hinders nothing, an escaped quote closes nothing, and behind an open bracket no comma separates. -/
theorem splitTopLevel_exact_unclosed :
    splitTopLevel ',' "f(a,b)],'\\',',[c,d" = ["f(a,b)]".toList, "'\\','".toList, "[c,d".toList] ∧
      "[c,d".toList ∈ splitTopLevel ',' "f(a,b)],'\\',',[c,d" ∧ splitTopLevel ',' "[c,d" = ["[c,d".toList] ∧
      splitTopLevel ',' ("f(a,b)]".toList ++ [',']) = splitTopLevel ',' "f(a,b)]" ++ [[]] ∧
      splitTopLevel ',' ("f(a,b)]".toList ++ ',' :: "[c,d".toList) =
        splitTopLevel ',' "f(a,b)]" ++ splitTopLevel ',' "[c,d" ∧
      isQuote ',' = false ∧ closerOf? ',' = none ∧ isBalanced "f(a,b)]" = true := by
  have hsplit : splitTopLevel ',' "f(a,b)],'\\',',[c,d" = ["f(a,b)]".toList, "'\\','".toList, "[c,d".toList] := by decide
  have hmem : "[c,d".toList ∈ splitTopLevel ',' "f(a,b)],'\\',',[c,d" := by decide
  have hend : splitTopLevel ',' ("f(a,b)]".toList ++ [',']) = splitTopLevel ',' "f(a,b)]" ++ [[]] := by decide
  obtain ⟨-, hpart, happend, hbalanced⟩ := splitTopLevel_exact ','
  exact ⟨hsplit, hmem, hpart _ _ hmem, hend, (happend _).mp hend _, rfl, rfl, (hbalanced rfl rfl _).mp hend⟩

end UiToolkit.Text
