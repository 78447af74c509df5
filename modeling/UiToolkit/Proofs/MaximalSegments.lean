import UiToolkit.Proofs.Segments

/-!
# Segments are canonical and maximal

Whether a segment ends at some place of a text is seen from the text up to there and the character behind it at most. So a segment is read as it is in front of any part of what follows it: its text alone is scanned as that segment, and no longer part of the text as one segment. In particular no two runs of blanks and no two type names stand next to each other.
-/

namespace UiToolkit

namespace Segment

open Text

variable {a b t : Text}

/-! ### Extents see no further than they reach -/

/-- An extent that ends with `a` ends there in front of any part of what follows. -/
def IsLocal (extent : Text → Nat) : Prop :=
  ∀ ⦃a b t : Text⦄, extent (a ++ b) = a.length → t <+: b → extent (a ++ t) = a.length

theorem isLocal_zero : IsLocal fun _ => 0 := fun _ _ _ h _ => h

/-- A run goes on from character to character, so nothing stands behind it that would continue it. -/
theorem eq_zero_of_run (extent : Text → Nat) {continues : Char → Text → Bool}
    (hstep : ∀ c cs, extent (c :: cs) = if continues c cs then extent cs + 1 else 0)
    (h : extent (a ++ b) = a.length) : extent b = 0 := by
  induction a with
  | nil => exact h
  | cons c a ih =>
    rw [List.cons_append, hstep] at h
    split at h
    · exact ih (Nat.succ.inj h)
    · cases h

theorem length_takeWhile_cons (p : Char → Bool) (c : Char) (cs : Text) :
    ((c :: cs).takeWhile p).length = if p c then (cs.takeWhile p).length + 1 else 0 := by
  rw [List.takeWhile_cons]
  split <;> rfl

/-- A run of characters is local, if what stands where it ends is read locally. -/
theorem isLocal_of_run {extent next : Text → Nat} {p : Char → Bool} (hnil : extent [] = 0)
    (hstep : ∀ c cs, extent (c :: cs) = if p c then extent cs + 1 else next (c :: cs)) (hnext : IsLocal next) :
    IsLocal extent := by
  intro a b t h ht
  induction a with
  | nil =>
    cases t with
    | nil => exact hnil
    | cons c t =>
      obtain ⟨r, rfl⟩ := ht
      rw [List.nil_append, List.cons_append, hstep] at h
      rw [List.nil_append, hstep]
      split_ifs at h ⊢
      have hstop : next ([] ++ c :: t) = 0 := hnext h (List.prefix_append (c :: t) r)
      exact hstop
  | cons c a ih =>
    rw [List.cons_append, hstep] at h ⊢
    split_ifs at h ⊢
    · rw [ih (Nat.succ.inj h), List.length_cons]
    · have hrest : next (c :: a ++ t) = (c :: a).length := hnext h ht
      exact hrest

theorem isLocal_takeWhile (p : Char → Bool) : IsLocal fun s => (s.takeWhile p).length :=
  isLocal_of_run rfl (length_takeWhile_cons p) isLocal_zero

theorem typeExtent_pos {c : Char} (hc : isTypeChar c = true) (cs : Text) : 0 < typeExtent (c :: cs) := by
  rw [typeExtent, hc, Bool.true_or, if_pos rfl]
  exact Nat.succ_pos _

theorem typeExtent_pos_of_startsWithDigit {s : Text} (h : startsWithDigit s = true) : 0 < typeExtent s := by
  cases s with
  | nil => cases h
  | cons c cs =>
    apply typeExtent_pos
    simp only [startsWithDigit] at h
    simp [isTypeChar, isNameChar, isAlphanumeric, h]

theorem startsWithDigit_append {s : Text} (h : startsWithDigit s = true) (r : Text) : startsWithDigit (s ++ r) = true := by
  cases s with
  | nil => cases h
  | cons c cs => exact h

theorem isLocal_typeExtent : IsLocal typeExtent := by
  intro a b t h ht
  induction a with
  | nil =>
    cases t with
    | nil => rfl
    | cons c t =>
      obtain ⟨r, rfl⟩ := ht
      rw [List.nil_append, List.cons_append, typeExtent] at h
      split at h
      · cases h
      · rename_i hstop
        rw [List.nil_append, typeExtent, if_neg]
        · rfl
        · intro hcontinues
          apply hstop
          rw [Bool.or_eq_true, Bool.and_eq_true] at hcontinues ⊢
          exact hcontinues.imp id (And.imp id fun hdigit => startsWithDigit_append hdigit r)
  | cons c a ih =>
    rw [List.cons_append, typeExtent] at h ⊢
    split at h
    · rename_i hcontinues
      have hrest := Nat.succ.inj h
      -- A point continues the name in front of a digit only, and a digit behind the point belongs to the name.
      have hdigit : startsWithDigit (a ++ b) = true → startsWithDigit (a ++ t) = true := by
        intro hdigit
        cases a with
        | nil => exact absurd (typeExtent_pos_of_startsWithDigit hdigit) (by rw [hrest]; exact Nat.lt_irrefl 0)
        | cons d a => exact hdigit
      rw [if_pos, ih hrest]
      · rfl
      · rw [Bool.or_eq_true, Bool.and_eq_true] at hcontinues ⊢
        exact hcontinues.imp id (And.imp id hdigit)
    · cases h

theorem isLocal_of_append {extent : Text → Nat}
    (h : ∀ {a b z : Text}, extent (a ++ b) ≤ a.length → b ≠ [] → extent (a ++ z) = extent (a ++ b)) :
    IsLocal extent := by
  intro a b t hextent ht
  by_cases hb : b = []
  · subst hb
    rwa [List.prefix_nil.mp ht]
  · rw [h hextent.le hb, hextent]

theorem isLocal_groupExtent (depth : Nat) : IsLocal (groupExtent depth) :=
  isLocal_of_append groupExtent_append

theorem isLocal_attributeExtent : IsLocal attributeExtent :=
  isLocal_of_append attributeExtent_append

/-- The number of characters from here that are the arguments of a pseudo name. -/
def argumentsExtent : Text → Nat
  | [] => 0
  | c :: cs => if c = '(' then groupExtent 0 cs + 1 else 0

theorem isLocal_argumentsExtent : IsLocal argumentsExtent := by
  intro a b t h ht
  cases a with
  | nil =>
    cases t with
    | nil => rfl
    | cons c t =>
      obtain ⟨r, rfl⟩ := ht
      rw [List.nil_append, List.cons_append, argumentsExtent] at h
      rw [List.nil_append, argumentsExtent]
      split_ifs at h ⊢
      rfl
  | cons c a =>
    rw [List.cons_append, argumentsExtent] at h ⊢
    split_ifs at h ⊢
    rw [isLocal_groupExtent 0 (Nat.succ.inj h) ht, List.length_cons]

theorem pseudoExtent_cons (c : Char) (cs : Text) :
    pseudoExtent (c :: cs) = if isNameChar c then pseudoExtent cs + 1 else argumentsExtent (c :: cs) := by
  rw [pseudoExtent, List.takeWhile_cons]
  cases hc : isNameChar c with
  | true =>
    rw [if_pos rfl, if_pos rfl, pseudoExtent, List.length_cons, List.drop_succ_cons]
    split <;> omega
  | false =>
    rw [if_neg Bool.false_ne_true, if_neg Bool.false_ne_true, List.length_nil, List.drop_zero, argumentsExtent]
    split
    · rename_i heq
      obtain ⟨rfl, rfl⟩ := List.cons.inj heq
      rw [if_pos rfl]
      omega
    · rename_i hparen
      rw [if_neg]
      exact fun hc => hparen cs (by rw [hc])

theorem isLocal_pseudoExtent : IsLocal pseudoExtent :=
  isLocal_of_run rfl pseudoExtent_cons isLocal_argumentsExtent

/-! ### Segments see no further than they reach -/

theorem opening_colon_of_prefix {kind : SegmentKind} (h : opening ':' (a ++ b) = (kind, a.length)) (ht : t <+: b) :
    opening ':' (a ++ t) = (kind, a.length) := by
  by_cases hdouble : a.head? = some ':'
  · obtain ⟨a, rfl⟩ := List.head?_eq_some_iff.mp hdouble
    rw [List.cons_append, opening_colon_colon, Prod.mk.injEq] at h
    rw [List.cons_append, opening_colon_colon, isLocal_pseudoExtent (Nat.succ.inj h.2) ht, h.1, List.length_cons]
  · have hsingle : ∀ r, r <+: b → (a ++ r).head? ≠ some ':' := by
      intro r hr hhead
      cases a with
      | cons d a => exact hdouble hhead
      | nil =>
        -- The second colon would belong to the segment.
        obtain ⟨r', rfl⟩ := List.head?_eq_some_iff.mp hhead
        obtain ⟨b', rfl⟩ := hr
        rw [List.nil_append, List.cons_append, opening_colon_colon, Prod.mk.injEq] at h
        cases h.2
    rw [opening_colon (hsingle b List.prefix_rfl), Prod.mk.injEq] at h
    rw [opening_colon (hsingle t ht), isLocal_pseudoExtent h.2 ht, h.1]

theorem opening_of_prefix {c : Char} {kind : SegmentKind} (h : opening c (a ++ b) = (kind, a.length)) (ht : t <+: b) :
    opening c (a ++ t) = (kind, a.length) := by
  have hlocal : ∀ {extent : Text → Nat} {k : SegmentKind}, IsLocal extent →
      (k, extent (a ++ b)) = (kind, a.length) → (k, extent (a ++ t)) = (kind, a.length) := by
    intro extent k hextent heq
    rw [Prod.mk.injEq] at heq ⊢
    exact ⟨heq.1, hextent heq.2 ht⟩
  by_cases hcolon : c = ':'
  · subst hcolon
    exact opening_colon_of_prefix h ht
  · unfold opening at h ⊢
    simp only [beq_false_of_ne hcolon, Bool.false_eq_true, if_false] at h ⊢
    split_ifs at h ⊢
    · exact hlocal (isLocal_takeWhile isBlank) h
    · exact hlocal isLocal_zero h
    · exact hlocal isLocal_zero h
    · exact hlocal (isLocal_takeWhile isNameChar) h
    · exact hlocal (isLocal_takeWhile isNameChar) h
    · exact hlocal isLocal_attributeExtent h
    · exact hlocal isLocal_typeExtent h
    · exact hlocal isLocal_zero h

theorem exists_of_scan {s : Text} {A B : List Segment} {g : Segment} (h : scan s = A ++ g :: B) :
    ∃ c cs, g.text = c :: cs ∧ opening c (cs ++ textOf B) = (g.kind, cs.length) := by
  have hscanned := scanned_scan s
  rw [h] at hscanned
  obtain ⟨hg, -⟩ := scanned_cons.mp (scanned_append.mp hscanned).2
  rwa [List.append_nil] at hg

/-- A segment is read as it is in front of any part of what follows it. -/
theorem scan_append_of_prefix {s : Text} {A B : List Segment} {g : Segment} (h : scan s = A ++ g :: B)
    (ht : t <+: textOf B) : scan (g.text ++ t) = g :: scan t := by
  obtain ⟨c, cs, htext, hopening⟩ := exists_of_scan h
  rw [htext, List.cons_append, scan_cons, opening_of_prefix hopening ht, List.take_left, List.drop_left, ← htext]

/-! ### What follows a segment -/

theorem extent_of_opening {c : Char} {cs : Text} {kind : SegmentKind} {n : Nat} (h : opening c cs = (kind, n)) :
    (kind = .whitespace → isBlank c = true ∧ n = (cs.takeWhile isBlank).length) ∧
      (kind = .className ∨ kind = .id → n = (cs.takeWhile isNameChar).length) ∧
      (kind = .typeName → isTypeChar c = true ∧ n = typeExtent cs) := by
  by_cases hcolon : c = ':'
  · subst hcolon
    have hpseudo : kind = .pseudoElement ∨ kind = .pseudoClass := by
      by_cases hdouble : cs.head? = some ':'
      · obtain ⟨cs, rfl⟩ := List.head?_eq_some_iff.mp hdouble
        exact .inl (congrArg Prod.fst (opening_colon_colon cs ▸ h)).symm
      · exact .inr (congrArg Prod.fst (opening_colon hdouble ▸ h)).symm
    rcases hpseudo with rfl | rfl <;> simp
  · unfold opening at h
    simp only [beq_false_of_ne hcolon, Bool.false_eq_true, if_false] at h
    split_ifs at h
    all_goals
      obtain ⟨rfl, rfl⟩ := Prod.mk.inj h
      simp [*]

/-- Blanks and names go on as far as they can. -/
theorem stops_of_scan {s : Text} {A B : List Segment} {g : Segment} (h : scan s = A ++ g :: B) :
    (g.kind = .whitespace → ∀ c ∈ (textOf B).head?, isBlank c = false) ∧
      (g.kind = .className ∨ g.kind = .id → ∀ c ∈ (textOf B).head?, isNameChar c = false) ∧
      (g.kind = .typeName → typeExtent (textOf B) = 0) := by
  obtain ⟨c, cs, -, hopening⟩ := exists_of_scan h
  obtain ⟨hblank, hname, htype⟩ := extent_of_opening hopening
  have hrun : ∀ {p : Char → Bool}, cs.length = ((cs ++ textOf B).takeWhile p).length →
      ∀ d ∈ (textOf B).head?, p d = false := by
    intro p hlength d hd
    have hzero : ((textOf B).takeWhile p).length = 0 :=
      eq_zero_of_run (fun s => (s.takeWhile p).length) (length_takeWhile_cons p) hlength.symm
    obtain ⟨ds, hB⟩ := List.head?_eq_some_iff.mp hd
    rw [hB, length_takeWhile_cons] at hzero
    exact Bool.eq_false_iff.mpr fun hp => by rw [hp] at hzero; cases hzero
  refine ⟨fun hkind => hrun (hblank hkind).2, fun hkind => hrun (hname hkind), fun hkind => ?_⟩
  exact eq_zero_of_run typeExtent (fun d ds => by rw [typeExtent]) (htype hkind).2.symm

theorem exists_head {s : Text} {A B : List Segment} {g : Segment} (h : scan s = A ++ g :: B) :
    ∃ c, (textOf (g :: B)).head? = some c ∧ (g.kind = .whitespace → isBlank c = true) ∧
      (g.kind = .typeName → 0 < typeExtent (textOf (g :: B))) := by
  obtain ⟨c, cs, htext, hopening⟩ := exists_of_scan h
  obtain ⟨hblank, -, htype⟩ := extent_of_opening hopening
  refine ⟨c, by rw [textOf_cons, htext]; rfl, fun hkind => (hblank hkind).1, fun hkind => ?_⟩
  rw [textOf_cons, htext]
  exact typeExtent_pos (htype hkind).1 (cs ++ textOf B)

/--
The text of a segment is scanned as that segment. Neither two runs of blanks nor two type names are neighbours, and behind blanks, a class or an id stands no character that would have been read along. No longer part of the text is one segment: what follows a segment, as far as one likes, is scanned for itself.
-/
theorem scan_canonical (s : Text) :
    (∀ g ∈ scan s, scan g.text = [g]) ∧
      (∀ A g h B, scan s = A ++ g :: h :: B →
        ¬(g.kind = .whitespace ∧ h.kind = .whitespace) ∧ ¬(g.kind = .typeName ∧ h.kind = .typeName)) ∧
      ∀ A g B, scan s = A ++ g :: B →
        s = textOf A ++ (g.text ++ textOf B) ∧
          (∀ c ∈ (textOf B).head?, (g.kind = .whitespace → isBlank c = false) ∧
            (g.kind = .className ∨ g.kind = .id → isNameChar c = false)) ∧
          ∀ t, t <+: textOf B → scan (g.text ++ t) = g :: scan t := by
  refine ⟨fun g hg => ?_, fun A g h B hscan => ?_, fun A g B hscan => ⟨?_, fun c hc => ?_, fun t ht => ?_⟩⟩
  · obtain ⟨A, B, hscan⟩ := List.mem_iff_append.mp hg
    have halone := scan_append_of_prefix hscan List.nil_prefix
    rwa [List.append_nil, scan_nil] at halone
  · obtain ⟨hblank, -, htype⟩ := stops_of_scan hscan
    obtain ⟨c, hhead, hblank', htype'⟩ := exists_head (A := A ++ [g]) (g := h) (B := B) (by rw [hscan]; simp)
    constructor
    · rintro ⟨hg, hh⟩
      exact Bool.false_ne_true ((hblank hg c hhead).symm.trans (hblank' hh))
    · rintro ⟨hg, hh⟩
      exact absurd (htype' hh) (by rw [htype hg]; exact Nat.lt_irrefl 0)
  · rw [← textOf_cons, ← textOf_append, ← hscan, textOf_scan]
  · obtain ⟨hblank, hname, -⟩ := stops_of_scan hscan
    exact ⟨fun hkind => hblank hkind c hc, fun hkind => hname hkind c hc⟩
  · exact scan_append_of_prefix hscan ht

/-- The point in front of a digit belongs to the type name before it and begins a class behind a blank; the last segment is cut off. -/
theorem scan_canonical_slider :
    scan "Slider.2.card .3:is(a" =
        [⟨.typeName, "Slider.2"⟩, ⟨.className, ".card"⟩, ⟨.whitespace, " "⟩, ⟨.className, ".3"⟩, ⟨.pseudoClass, ":is(a"⟩] ∧
      scan ":is(a" = [⟨.pseudoClass, ":is(a"⟩] ∧
      ¬(SegmentKind.typeName = .whitespace ∧ SegmentKind.className = .whitespace) ∧
      isNameChar ' ' = false ∧
      scan (".card".toList ++ " .".toList) = ⟨.className, ".card"⟩ :: scan " ." := by
  have hscan : scan "Slider.2.card .3:is(a" =
      [⟨.typeName, "Slider.2"⟩] ++ ⟨.className, ".card"⟩ :: [⟨.whitespace, " "⟩, ⟨.className, ".3"⟩, ⟨.pseudoClass, ":is(a"⟩] := by
    decide +kernel
  obtain ⟨halone, hneighbours, hfollow⟩ := scan_canonical "Slider.2.card .3:is(a"
  obtain ⟨-, hbehind, hprefix⟩ := hfollow _ _ _ hscan
  refine ⟨hscan, halone ⟨.pseudoClass, ":is(a"⟩ (by rw [hscan]; decide), (hneighbours [] _ _ _ hscan).1, ?_, ?_⟩
  · exact (hbehind ' ' (by decide)).2 (.inl rfl)
  · exact hprefix " .".toList (by decide)

end Segment

end UiToolkit
