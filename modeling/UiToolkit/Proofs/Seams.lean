import UiToolkit.Proofs.Words

/-!
# Markers among pieces

When a text is put together from pieces, a marker in it stands inside one of them or crosses a seam. Two markers that cannot overlap stand one behind the other, so that taking one of them off leaves the other as it was.
-/

namespace UiToolkit

namespace Text

variable {needle s before after : Text}

theorem eq_append_of_splitOnce? (h : splitOnce? needle s = some (before, after)) : s = before ++ (needle ++ after) := by
  induction s generalizing before with
  | nil => cases h
  | cons c cs ih =>
    rw [splitOnce?] at h
    split at h
    · rename_i hstarts
      cases h
      obtain ⟨rest, hrest⟩ := List.isPrefixOf_iff_prefix.mp hstarts
      rw [← hrest, List.drop_left, List.nil_append]
    · obtain ⟨⟨front, behind⟩, hsplit, heq⟩ := Option.map_eq_some_iff.mp h
      cases heq
      exact congrArg (c :: ·) (ih hsplit)

theorem splitOnce?_eq_none_iff (hne : needle ≠ []) : splitOnce? needle s = none ↔ ¬needle <:+: s := by
  induction s with
  | nil => simp [splitOnce?, hne]
  | cons c cs ih =>
    rw [splitOnce?, List.infix_cons_iff, ← List.isPrefixOf_iff_prefix]
    split
    · rename_i hstarts
      simp [hstarts]
    · rename_i hstarts
      simp [hstarts, ih]

theorem exists_trim_append {core : Text} (hne : core ≠ []) (hfirst : ∀ c ∈ core.head?, isBlank c = false)
    (hlast : ∀ c ∈ core.getLast?, isBlank c = false) (before after : Text) :
    ∃ x y, trim (before ++ (core ++ after)) = x ++ (core ++ y) := by
  obtain ⟨a, b, hsplit, ha, hb⟩ := exists_eq_trim (before ++ (core ++ after))
  generalize trim (before ++ (core ++ after)) = trimmed at hsplit
  obtain ⟨x, rfl⟩ : ∃ x, before = a ++ x := by
    rcases List.append_eq_append_iff.mp hsplit with ⟨e, hbefore, hrest⟩ | ⟨x, hx, -⟩
    · cases e with
      | nil => exact ⟨[], by rw [hbefore, List.append_nil, List.append_nil]⟩
      | cons c e =>
        obtain ⟨d, core, rfl⟩ := List.exists_cons_of_ne_nil hne
        have hblank : isBlank d = true := by
          rw [(List.cons.inj hrest).1]
          exact ha c (hbefore ▸ List.mem_append_right before List.mem_cons_self)
        rw [hfirst d rfl] at hblank
        cases hblank
    · exact ⟨x, hx⟩
  rw [List.append_assoc, List.append_cancel_left_eq, ← List.append_assoc] at hsplit
  rcases List.append_eq_append_iff.mp hsplit with ⟨y, htrimmed, -⟩ | ⟨e, hcore, hb'⟩
  · exact ⟨x, y, by rw [htrimmed, List.append_assoc]⟩
  · rcases List.eq_nil_or_concat e with rfl | ⟨e, c, rfl⟩
    · exact ⟨x, [], by rw [List.append_nil, hcore, List.append_nil]⟩
    · have hlastCore : c ∈ core.getLast? := by
        have hlast? := congrArg List.getLast? hcore
        rw [List.getLast?_append_of_ne_nil _ hne, List.concat_eq_append, ← List.append_assoc, List.getLast?_concat] at hlast?
        exact hlast?
      have hblank := hb c (by rw [hb']; simp)
      rw [hlast c hlastCore] at hblank
      cases hblank

/-! ### Seams -/

/-- The marker begins in one piece and ends in a later one. -/
def Crosses (pieces : List Text) (before marker after : Text) : Prop :=
  ∃ front back u v, pieces = front ++ back ∧ front.flatten = before ++ u ∧ back.flatten = v ++ after ∧ marker = u ++ v ∧
    u ≠ [] ∧ v ≠ []

theorem Crosses.flatten_eq {pieces : List Text} {marker : Text} (h : Crosses pieces before marker after) :
    pieces.flatten = before ++ (marker ++ after) := by
  obtain ⟨front, back, u, v, rfl, hfront, hback, rfl, -, -⟩ := h
  rw [List.flatten_append, hfront, hback, List.append_assoc, List.append_assoc]

theorem Crosses.cons {pieces : List Text} {marker : Text} (h : Crosses pieces before marker after) (piece : Text) :
    Crosses (piece :: pieces) (piece ++ before) marker after := by
  obtain ⟨front, back, u, v, rfl, hfront, hback, rfl, hu, hv⟩ := h
  refine ⟨piece :: front, back, u, v, rfl, ?_, hback, rfl, hu, hv⟩
  rw [List.flatten_cons, hfront, List.append_assoc]

theorem Crosses.append {pieces : List Text} {marker : Text} (h : Crosses pieces before marker after) (front : List Text) :
    Crosses (front ++ pieces) (front.flatten ++ before) marker after := by
  induction front with
  | nil => exact h
  | cons piece front ih =>
    rw [List.cons_append, List.flatten_cons, List.append_assoc]
    exact ih.cons piece

theorem Crosses.extend {piece : Text} {pieces : List Text} {marker : Text} (h : Crosses (piece :: pieces) before marker after)
    (x : Text) : Crosses ((x ++ piece) :: pieces) (x ++ before) marker after := by
  obtain ⟨front, back, u, v, hsplit, hfront, hback, rfl, hu, hv⟩ := h
  cases front with
  | nil => exact absurd (List.append_eq_nil_iff.mp hfront.symm).2 hu
  | cons first front =>
    obtain ⟨rfl, rfl⟩ := List.cons.inj hsplit
    refine ⟨(x ++ piece) :: front, back, u, v, rfl, ?_, hback, rfl, hu, hv⟩
    rw [List.flatten_cons, List.append_assoc, ← List.flatten_cons, hfront, List.append_assoc]

/-- A marker in a text that is made of pieces stands inside one of them, or crosses from one to another. -/
theorem inside_or_crosses {pieces : List Text} {marker : Text} (hne : marker ≠ [])
    (h : pieces.flatten = before ++ (marker ++ after)) :
    (∃ front x y back, pieces = front ++ (x ++ (marker ++ y)) :: back ∧ before = front.flatten ++ x ∧
        after = y ++ back.flatten) ∨
      Crosses pieces before marker after := by
  induction pieces generalizing before with
  | nil =>
    have hnil := (List.append_eq_nil_iff.mp (List.append_eq_nil_iff.mp h.symm).2).1
    exact absurd hnil hne
  | cons piece pieces ih =>
    rw [List.flatten_cons] at h
    have hlater : ∀ {z}, before = piece ++ z → pieces.flatten = z ++ (marker ++ after) →
        (∃ front x y back, piece :: pieces = front ++ (x ++ (marker ++ y)) :: back ∧ before = front.flatten ++ x ∧
            after = y ++ back.flatten) ∨
          Crosses (piece :: pieces) before marker after := by
      rintro z rfl hz
      rcases ih hz with ⟨front, x, y, back, rfl, rfl, rfl⟩ | hcrosses
      · exact .inl ⟨piece :: front, x, y, back, rfl, by rw [List.flatten_cons, List.append_assoc], rfl⟩
      · exact .inr (hcrosses.cons piece)
    rcases List.append_eq_append_iff.mp h with ⟨z, hbefore, hrest⟩ | ⟨z, hpiece, hrest⟩
    · exact hlater hbefore hrest
    · rcases List.append_eq_append_iff.mp hrest with ⟨y, hz, hafter⟩ | ⟨v, hmarker, hflatten⟩
      · exact .inl ⟨[], before, y, pieces, by rw [hpiece, hz]; rfl, rfl, hafter⟩
      · by_cases hz : z = []
        · subst hz
          refine hlater (z := []) ?_ ?_
          · rw [hpiece, List.append_nil, List.append_nil]
          · rw [hflatten, hmarker, List.nil_append, List.nil_append]
        · by_cases hv : v = []
          · subst hv
            refine .inl ⟨[], before, [], pieces, ?_, rfl, ?_⟩
            · rw [hpiece, hmarker, List.append_nil, List.append_nil]
              rfl
            · exact hflatten.symm
          · exact .inr ⟨[piece], pieces, z, v, rfl, by simpa using hpiece, hflatten, hmarker, hz, hv⟩

/-! ### Markers that are apart -/

/-- The two markers cannot overlap: none holds the other, and none ends as the other begins. -/
def Apart (m n : Text) : Prop :=
  (∀ i < m.length, ¬m.drop i <+: n ∧ ¬n <+: m.drop i) ∧ ∀ i < n.length, ¬n.drop i <+: m ∧ ¬m <+: n.drop i

instance (m n : Text) : Decidable (Apart m n) := inferInstanceAs (Decidable (_ ∧ _))

/-- Where one text ends as another goes on, they are not apart. -/
theorem nil_of_append_eq {m n e f b y : Text} (hends : ∀ i < m.length, ¬m.drop i <+: n ∧ ¬n <+: m.drop i) (hm : m = e ++ f)
    (h : f ++ b = n ++ y) : f = [] := by
  by_contra hf
  have hlength : e.length < m.length := by
    have hpos := List.length_pos_of_ne_nil hf
    rw [hm, List.length_append]
    omega
  obtain ⟨hstarts, hstarts'⟩ := hends e.length hlength
  rw [hm, List.drop_left] at hstarts hstarts'
  rcases List.append_eq_append_iff.mp h with ⟨g, hg, -⟩ | ⟨g, hg, -⟩
  · exact hstarts ⟨g, hg.symm⟩
  · exact hstarts' ⟨g, hg.symm⟩

theorem Apart.cases {m n a b x y : Text} (hapart : Apart m n) (h : a ++ (m ++ b) = x ++ (n ++ y)) :
    (∃ z, a = x ++ (n ++ z) ∧ y = z ++ (m ++ b)) ∨ ∃ z, x = a ++ (m ++ z) ∧ b = z ++ (n ++ y) := by
  obtain ⟨hends, hends'⟩ := hapart
  rcases List.append_eq_append_iff.mp h with ⟨e, hx, hrest⟩ | ⟨e, ha, hrest⟩
  · rcases List.append_eq_append_iff.mp hrest with ⟨z, he, hb⟩ | ⟨f, hm, hrest⟩
    · exact .inr ⟨z, by rw [hx, he], hb⟩
    · obtain rfl := nil_of_append_eq hends hm hrest.symm
      rw [List.append_nil] at hm
      exact .inr ⟨[], by rw [hx, hm, List.append_nil], hrest.symm⟩
  · rcases List.append_eq_append_iff.mp hrest with ⟨z, he, hy⟩ | ⟨f, hn, hrest⟩
    · exact .inl ⟨z, by rw [ha, he], hy⟩
    · obtain rfl := nil_of_append_eq hends' hn hrest.symm
      rw [List.append_nil] at hn
      exact .inl ⟨[], by rw [ha, hn, List.append_nil], hrest.symm⟩

end Text

end UiToolkit
