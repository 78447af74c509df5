import UiToolkit.Proofs.Pieces

/-!
# Guarded spans stay where they are

Whether a guarded span begins at a character, and how long it is, can be told from the span itself. So the spans of a text are found again after a pass: those that were guarded are still there, and no new ones appear, since what a pass writes closes no quote and is part of no call.
-/

namespace UiToolkit

namespace Text

theorem closingQuote?_append {quote : Char} {s : Text} {n : Nat} (h : closingQuote? quote s = some n) (t : Text) :
    closingQuote? quote (s.take n ++ t) = some n := by
  induction s using closingQuote?.induct quote generalizing n with
  | case1 => cases h
  | case2 tail => cases h
  | case3 c cs hc ih =>
    rw [closingQuote?.eq_3 _ _ _ hc] at h
    obtain ⟨m, hm, rfl⟩ := Option.map_eq_some_iff.mp h
    rw [List.take_succ_cons, List.take_succ_cons, List.cons_append, List.cons_append, closingQuote?.eq_3 _ _ _ hc, ih hm]
    rfl
  | case4 => cases h
  | case5 c cs h1 h2 h3 hquote =>
    rw [closingQuote?.eq_5 _ _ _ h1 h2 h3, if_pos hquote] at h
    cases h
    have hc : c ≠ '\\' := by
      rintro rfl
      cases cs with
      | nil => exact h3 rfl rfl
      | cons d cs => exact h2 d cs rfl rfl
    rw [List.take_succ_cons, List.cons_append, closingQuote?.eq_5 _ _ _ (fun _ h _ => hc h) (fun _ _ h _ => hc h)
      (fun h _ => hc h), if_pos hquote]
  | case6 c cs h1 h2 h3 hquote ih =>
    rw [closingQuote?.eq_5 _ _ _ h1 h2 h3, if_neg hquote] at h
    obtain ⟨m, hm, rfl⟩ := Option.map_eq_some_iff.mp h
    have hc : c ≠ '\\' := by
      rintro rfl
      cases cs with
      | nil => exact h3 rfl rfl
      | cons d cs => exact h2 d cs rfl rfl
    rw [List.take_succ_cons, List.cons_append, closingQuote?.eq_5 _ _ _ (fun _ h _ => hc h) (fun _ _ h _ => hc h)
      (fun h _ => hc h), if_neg hquote, ih hm]
    rfl

theorem closingQuote?_le_length {quote : Char} {s : Text} {n : Nat} (h : closingQuote? quote s = some n) : n ≤ s.length := by
  induction s using closingQuote?.induct quote generalizing n with
  | case1 => cases h
  | case2 tail => cases h
  | case3 c cs hc ih =>
    rw [closingQuote?.eq_3 _ _ _ hc] at h
    obtain ⟨m, hm, rfl⟩ := Option.map_eq_some_iff.mp h
    exact Nat.add_le_add_right (ih hm) 2
  | case4 => cases h
  | case5 c cs h1 h2 h3 hquote =>
    rw [closingQuote?.eq_5 _ _ _ h1 h2 h3, if_pos hquote] at h
    cases h
    exact Nat.le_add_left 1 _
  | case6 c cs h1 h2 h3 hquote ih =>
    rw [closingQuote?.eq_5 _ _ _ h1 h2 h3, if_neg hquote] at h
    obtain ⟨m, hm, rfl⟩ := Option.map_eq_some_iff.mp h
    exact Nat.add_le_add_right (ih hm) 1

theorem quotedExtent?_append {c : Char} {cs : Text} {n : Nat} (h : quotedExtent? c cs = some n) (t : Text) :
    quotedExtent? c (cs.take n ++ t) = some n := by
  unfold quotedExtent? at h ⊢
  split at h
  · rename_i hquote
    rw [if_pos hquote]
    exact closingQuote?_append h t
  · cases h

theorem startsWithAnyCase_append {word s : Text} (h : startsWithAnyCase word s = true) {n : Nat} (hn : word.length ≤ n)
    (t : Text) : startsWithAnyCase word (s.take n ++ t) = true := by
  induction word generalizing s n with
  | nil => rfl
  | cons letter word ih =>
    cases s with
    | nil => cases h
    | cons c s =>
      obtain ⟨hc, hrest⟩ := Bool.and_eq_true_iff.mp h
      obtain ⟨n, rfl⟩ : ∃ m, n = m + 1 := ⟨n - 1, by rw [List.length_cons] at hn; omega⟩
      exact Bool.and_eq_true_iff.mpr ⟨hc, ih hrest (Nat.le_of_succ_le_succ hn)⟩

theorem length_le_of_startsWithAnyCase {word s : Text} (h : startsWithAnyCase word s = true) : word.length ≤ s.length := by
  induction word generalizing s with
  | nil => exact Nat.zero_le _
  | cons letter word ih =>
    cases s with
    | nil => cases h
    | cons c s => exact Nat.succ_le_succ (ih (Bool.and_eq_true_iff.mp h).2)

end Text

namespace Declaration.Recast

open Text

/-- A word of call letters at the start of the later text was there before, and what follows it corresponds. -/
theorem startsWithAnyCase {word s t : Text} (hword : ∀ letter ∈ word, letter ∈ callLetters) (h : Recast s t)
    (hstarts : Text.startsWithAnyCase word t = true) :
    Text.startsWithAnyCase word s = true ∧ Recast (s.drop word.length) (t.drop word.length) := by
  induction word generalizing s t with
  | nil => exact ⟨rfl, h⟩
  | cons letter word ih =>
    obtain ⟨hletter, hword⟩ := List.forall_mem_cons.mp hword
    cases h with
    | nil => cases hstarts
    | same c h =>
      obtain ⟨hc, hrest⟩ := Bool.and_eq_true_iff.mp hstarts
      obtain ⟨hs, hdrop⟩ := ih hword h hrest
      exact ⟨Bool.and_eq_true_iff.mpr ⟨hc, hs⟩, hdrop⟩
    | run _ hv h =>
      obtain ⟨c, v, rfl, hinert⟩ := hv.exists_cons
      have hc := (Bool.and_eq_true_iff.mp hstarts).1
      have hnone := List.all_eq_true.mp (Bool.and_eq_true_iff.mp hinert).2 letter hletter
      rw [hc] at hnone
      cases hnone

theorem mem_iff {d : Char} (hd : isOrdinary d = false) {s t : Text} (h : Recast s t) : d ∈ s ↔ d ∈ t := by
  induction h with
  | nil => exact Iff.rfl
  | same c _ ih => simp only [List.mem_cons, ih]
  | run hu hv _ ih =>
    simp only [List.mem_append, ih]
    refine or_congr_left' fun _ => ⟨fun hmem => ?_, fun hmem => ?_⟩
    · exact absurd (hu.all d hmem) (by simp [hd])
    · exact absurd (isOrdinary_of_isInert (hv.all d hmem)) (by simp [hd])

end Declaration.Recast

namespace Piece

open Declaration Text

variable {α : Type}

theorem callExtent?_eq_some_iff {name : String} {c : Char} {cs : Text} {n : Nat} :
    callExtent? name c cs = some n ↔
      ∃ word inner after, cs = word ++ inner ++ ')' :: after ∧ word.length = name.toList.length ∧ ')' ∉ inner ∧
        startsWithAnyCase (name.toList ++ ['(']) (c :: word) = true ∧ n = word.length + inner.length + 1 := by
  have htake : ∀ inner after : Text, ')' ∉ inner → (inner ++ ')' :: after).takeWhile (· ≠ ')') = inner := by
    intro inner after hinner
    rw [List.takeWhile_append_of_pos fun x hx => by simpa using fun heq : x = ')' => hinner (heq ▸ hx)]
    simp
  unfold callExtent?
  simp only [List.length_append, List.length_singleton, Nat.add_sub_cancel]
  constructor
  · intro h
    split at h
    · rename_i hcall
      obtain ⟨hstarts, hcloses⟩ := Bool.and_eq_true_iff.mp hcall
      obtain ⟨inner, after, hsplit, hinner⟩ := List.eq_append_cons_of_mem (List.contains_iff_mem.mp hcloses)
      have hlength := length_le_of_startsWithAnyCase hstarts
      simp only [List.length_append, List.length_cons] at hlength
      have hword : (cs.take name.toList.length).length = name.toList.length := by
        rw [List.length_take]
        omega
      refine ⟨cs.take name.toList.length, inner, after, ?_, hword, hinner, ?_, ?_⟩
      · rw [List.append_assoc, ← hsplit, List.take_append_drop]
      · have hkept := startsWithAnyCase_append hstarts (n := name.toList.length + 1) (by simp) []
        rwa [List.append_nil, List.take_succ_cons] at hkept
      · rw [hsplit, htake inner after hinner] at h
        cases h
        omega
    · cases h
  · rintro ⟨word, inner, after, rfl, hword, hinner, hstarts, rfl⟩
    have hdrop : (word ++ inner ++ ')' :: after).drop name.toList.length = inner ++ ')' :: after := by
      rw [List.append_assoc, ← hword, List.drop_left]
    have hkept := startsWithAnyCase_append hstarts (n := (c :: word).length)
      (length_le_of_startsWithAnyCase hstarts) (inner ++ ')' :: after)
    rw [List.take_length, List.cons_append, ← List.append_assoc] at hkept
    rw [hdrop, htake inner after hinner, if_pos]
    · rw [hword]
      exact congrArg some (by omega)
    · exact Bool.and_eq_true_iff.mpr ⟨hkept, by simp⟩

theorem callExtent?_append {name : String} {c : Char} {cs : Text} {n : Nat} (h : callExtent? name c cs = some n) (t : Text) :
    callExtent? name c (cs.take n ++ t) = some n := by
  obtain ⟨word, inner, after, rfl, hword, hinner, hstarts, rfl⟩ := callExtent?_eq_some_iff.mp h
  refine callExtent?_eq_some_iff.mpr ⟨word, inner, t, ?_, hword, hinner, hstarts, rfl⟩
  have hsplit : word ++ inner ++ ')' :: after = (word ++ inner ++ [')']) ++ after := by simp
  rw [hsplit, List.take_append_of_le_length (by simp +arith), List.take_of_length_le (by simp +arith)]
  simp

theorem callExtent?_eq_none (name : String) {letter : Char} {rest : Text} (hname : name.toList = letter :: rest) {c : Char}
    (hc : isLetterAnyCase letter c = false) (cs : Text) : callExtent? name c cs = none := by
  unfold callExtent?
  rw [hname]
  simp [startsWithAnyCase, hc]

theorem quotedExtent?_eq_none {c : Char} (hdouble : c ≠ '"') (hsingle : c ≠ '\'') (cs : Text) :
    quotedExtent? c cs = none := by
  rw [quotedExtent?, beq_false_of_ne hdouble, beq_false_of_ne hsingle]
  rfl

/-- The character begins neither a call nor a quoted string. -/
def neverGuards (c : Char) : Bool :=
  c != '"' && c != '\'' && !isLetterAnyCase 'u' c && !isLetterAnyCase 'r' c

/-- Whether a call or a quoted string begins at the character, be it ended or not. -/
def opensSpan (c : Char) (cs : Text) : Bool :=
  c == '"' || c == '\'' || startsWithAnyCase ("url".toList ++ ['(']) (c :: cs) ||
    startsWithAnyCase ("resource".toList ++ ['(']) (c :: cs)

theorem callExtent?_of_startsWithAnyCase {name : String} {c : Char} {cs : Text}
    (h : startsWithAnyCase (name.toList ++ ['(']) (c :: cs) = false) : callExtent? name c cs = none := by
  unfold callExtent?
  simp only [h, Bool.false_and, Bool.false_eq_true, if_false]

theorem guardedExtent?_of_opensSpan {c : Char} {cs : Text} (h : opensSpan c cs = false) : guardedExtent? c cs = none := by
  simp only [opensSpan, Bool.or_eq_false_iff, beq_eq_false_iff_ne] at h
  obtain ⟨⟨⟨hdouble, hsingle⟩, hurl⟩, hresource⟩ := h
  rw [guardedExtent?, callExtent?_of_startsWithAnyCase hurl, callExtent?_of_startsWithAnyCase hresource,
    quotedExtent?_eq_none hdouble hsingle]
  rfl

theorem opensSpan_eq_false {c : Char} (hc : neverGuards c = true) (cs : Text) : opensSpan c cs = false := by
  simp only [neverGuards, Bool.and_eq_true, bne_iff_ne, ne_eq, Bool.not_eq_true'] at hc
  obtain ⟨⟨⟨hdouble, hsingle⟩, hu⟩, hr⟩ := hc
  simp [opensSpan, startsWithAnyCase, hdouble, hsingle, hu, hr]

theorem guardedExtent?_eq_none {c : Char} (hc : neverGuards c = true) (cs : Text) : guardedExtent? c cs = none :=
  guardedExtent?_of_opensSpan (opensSpan_eq_false hc cs)

/-- The three sorts of guarded spans begin with different characters. -/
theorem guardedExtent?_cases {c : Char} {cs : Text} {n : Nat} (h : guardedExtent? c cs = some n) :
    (callExtent? "url" c cs = some n) ∨ (isLetterAnyCase 'u' c = false ∧ callExtent? "resource" c cs = some n) ∨
      (isLetterAnyCase 'u' c = false ∧ isLetterAnyCase 'r' c = false ∧ quotedExtent? c cs = some n) := by
  unfold guardedExtent? at h
  cases hurl : callExtent? "url" c cs with
  | some m =>
    rw [hurl] at h
    exact .inl h
  | none =>
    cases hresource : callExtent? "resource" c cs with
    | some m =>
      rw [hurl, hresource] at h
      refine .inr (.inl ⟨?_, h⟩)
      obtain ⟨word, inner, after, -, -, -, hstarts, -⟩ := callExtent?_eq_some_iff.mp hresource
      have hr : isLetterAnyCase 'r' c = true := (Bool.and_eq_true_iff.mp hstarts).1
      have hlower : c.toLower = 'r' := by simpa [isLetterAnyCase] using hr
      simp [isLetterAnyCase, hlower]
    | none =>
      rw [hurl, hresource] at h
      refine .inr (.inr ?_)
      have hquoted : quotedExtent? c cs = some n := h
      unfold quotedExtent? at hquoted
      split at hquoted
      · rename_i hquote
        rcases Bool.or_eq_true_iff.mp hquote with hc | hc <;> rw [beq_iff_eq.mp hc] at h ⊢ <;>
          exact ⟨rfl, rfl, h⟩
      · cases hquoted

theorem guardedExtent?_le_length {c : Char} {cs : Text} {n : Nat} (h : guardedExtent? c cs = some n) : n ≤ cs.length := by
  have hcall : ∀ name : String, callExtent? name c cs = some n → n ≤ cs.length := by
    intro name hname
    obtain ⟨word, inner, after, rfl, -, -, -, rfl⟩ := callExtent?_eq_some_iff.mp hname
    simp +arith
  rcases guardedExtent?_cases h with hurl | ⟨-, hresource⟩ | ⟨-, -, hquoted⟩
  · exact hcall "url" hurl
  · exact hcall "resource" hresource
  · unfold quotedExtent? at hquoted
    split at hquoted
    · exact closingQuote?_le_length hquoted
    · cases hquoted

theorem guardedExtent?_append {c : Char} {cs : Text} {n : Nat} (h : guardedExtent? c cs = some n) (t : Text) :
    guardedExtent? c (cs.take n ++ t) = some n := by
  rcases guardedExtent?_cases h with hurl | ⟨hu, hresource⟩ | ⟨hu, hr, hquoted⟩
  · rw [guardedExtent?, callExtent?_append hurl]
    rfl
  · rw [guardedExtent?, callExtent?_eq_none "url" rfl hu, callExtent?_append hresource]
    rfl
  · rw [guardedExtent?, callExtent?_eq_none "url" rfl hu, callExtent?_eq_none "resource" rfl hr,
      quotedExtent?_append hquoted]
    rfl

/-- No guarded span begins where none began before a pass. -/
theorem guardedExtent?_of_recast {c : Char} {s t : Text} (h : Recast s t) (hnone : guardedExtent? c s = none) :
    guardedExtent? c t = none := by
  have hcall : ∀ name : String, (∀ letter ∈ name.toList ++ ['('], letter ∈ callLetters) →
      callExtent? name c s = none → callExtent? name c t = none := by
    intro name hletters hs
    refine Option.eq_none_iff_forall_ne_some.mpr fun n ht => ?_
    obtain ⟨word, inner, after, rfl, hword, -, hstarts, -⟩ := callExtent?_eq_some_iff.mp ht
    have hopening := startsWithAnyCase_append hstarts (n := (c :: word).length)
      (length_le_of_startsWithAnyCase hstarts) (inner ++ ')' :: after)
    rw [List.take_length, List.cons_append, ← List.append_assoc] at hopening
    obtain ⟨hbefore, hdrop⟩ := Recast.startsWithAnyCase hletters (.same c h) hopening
    simp only [List.length_append, List.length_singleton, List.drop_succ_cons] at hdrop
    have hcloses : ')' ∈ s.drop name.toList.length := by
      refine (Recast.mem_iff (by decide) hdrop).mpr ?_
      rw [← hword, List.append_assoc, List.drop_left]
      simp
    unfold callExtent? at hs
    simp only [hbefore, List.length_append, List.length_singleton, Nat.add_sub_cancel, Bool.true_and] at hs
    rw [if_pos (List.contains_iff_mem.mpr hcloses)] at hs
    cases hs
  have hquoted : quotedExtent? c s = none → quotedExtent? c t = none := by
    intro hs
    have hrel := h.afterString? (c := c)
    rw [afterString?_eq_map, afterString?_eq_map, hs] at hrel
    cases ht : quotedExtent? c t with
    | none => rfl
    | some n =>
      rw [ht] at hrel
      cases hrel
  unfold guardedExtent? at hnone ⊢
  simp only [Option.orElse_eq_orElse, Option.orElse_eq_or, Option.or_eq_none_iff] at hnone ⊢
  exact ⟨hcall "url" (by decide) hnone.1, hcall "resource" (by decide) hnone.2.1, hquoted hnone.2.2⟩

end Piece

end UiToolkit
