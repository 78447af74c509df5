import UiToolkit.Proofs.Denylist

/-!
# Selectors that are rewritten again

Blanks around a selector make no difference to its rewriting. They are segments of their own, but for one case: behind a bracket that is never closed, blanks belong to the segment that the bracket opens, and what is written for the compound ends with them. So the text of an accepted selector, which has no blanks around it, is taken for the selector it was made from, and is accepted as it stands unless one of its words meets the denylist. Under the bundled denylist none does.
-/

namespace UiToolkit

namespace Segment

open Text

/-! ### Brackets that are never closed -/

variable {a w : Text}

theorem groupExtent_of_not_mem (hw : ')' ∉ w) (depth : Nat) : groupExtent depth w = w.length := by
  induction w generalizing depth with
  | nil => rfl
  | cons c w ih =>
    rw [List.mem_cons, not_or] at hw
    have hc : (c == ')') = false := beq_false_of_ne (Ne.symm hw.1)
    unfold groupExtent
    rw [ih hw.2, ih hw.2, hc, if_neg Bool.false_ne_true, ite_self, List.length_cons]

theorem groupExtent_cases (hw : ')' ∉ w) (depth : Nat) (a : Text) :
    groupExtent depth (a ++ w) = groupExtent depth a ∨
      groupExtent depth a = a.length ∧ groupExtent depth (a ++ w) = (a ++ w).length := by
  induction a generalizing depth with
  | nil => exact .inr ⟨rfl, groupExtent_of_not_mem hw depth⟩
  | cons c a ih =>
    have hstep : ∀ depth, groupExtent depth (a ++ w) + 1 = groupExtent depth a + 1 ∨
        groupExtent depth a + 1 = a.length + 1 ∧ groupExtent depth (a ++ w) + 1 = (a ++ w).length + 1 := by
      intro depth
      have := ih depth
      omega
    rw [List.cons_append, List.length_cons, List.length_cons]
    unfold groupExtent
    split
    · exact hstep (depth + 1)
    · split
      · cases depth with
        | zero => exact .inl rfl
        | succ depth => exact hstep depth
      · exact hstep depth

theorem attributeExtent_of_not_mem (hw : ']' ∉ w) : attributeExtent w = w.length := by
  fun_induction attributeExtent w with
  | case1 => rfl
  | case2 => simp at hw
  | case3 c cs ih => simp_all
  | case4 c cs _ _ ih => simp_all

theorem attributeExtent_cases (hw : ']' ∉ w) (a : Text) :
    attributeExtent (a ++ w) = attributeExtent a ∨
      attributeExtent a = a.length ∧ attributeExtent (a ++ w) = (a ++ w).length := by
  fun_induction attributeExtent a with
  | case1 => exact .inr ⟨rfl, attributeExtent_of_not_mem hw⟩
  | case2 cs => exact .inl (by simp [attributeExtent])
  | case3 c cs ih =>
    simp only [List.cons_append, attributeExtent, List.length_cons]
    omega
  | case4 c cs hclose hescape ih =>
    by_cases hc : c = '\\'
    · subst hc
      have hnil : cs = [] := List.eq_nil_iff_forall_not_mem.mpr fun d hd => by
        obtain ⟨e, es, rfl⟩ := List.exists_cons_of_ne_nil (List.ne_nil_of_mem hd)
        exact hescape e es rfl rfl
      subst hnil
      cases w with
      | nil => exact .inl rfl
      | cons d w =>
        rw [List.mem_cons, not_or] at hw
        have hextent := attributeExtent_of_not_mem hw.2
        exact .inr ⟨rfl, congrArg (· + 2) hextent⟩
    · have hstep : attributeExtent (c :: (cs ++ w)) = attributeExtent (cs ++ w) + 1 :=
        attributeExtent.eq_4 c (cs ++ w) hclose fun _ _ h _ => hc h
      rw [List.cons_append, hstep, List.length_cons, List.length_cons]
      omega

theorem getLast?_of_attributeExtent (a : Text) (h : a.length + 1 < attributeExtent (a ++ ']' :: w)) :
    a.getLast? = some '\\' := by
  fun_induction attributeExtent a with
  | case1 => simp [attributeExtent] at h
  | case2 cs => simp [attributeExtent] at h
  | case3 c cs ih =>
    simp only [List.cons_append, attributeExtent, List.length_cons] at h
    have hlast := ih (by omega)
    rw [List.getLast?_cons, List.getLast?_cons, hlast]
    rfl
  | case4 c cs hclose hescape ih =>
    by_cases hc : c = '\\'
    · subst hc
      cases cs with
      | nil => rfl
      | cons d ds => exact absurd rfl (hescape d ds rfl)
    · have hstep : attributeExtent (c :: (cs ++ ']' :: w)) = attributeExtent (cs ++ ']' :: w) + 1 :=
        attributeExtent.eq_4 c _ hclose fun _ _ h _ => hc h
      rw [List.cons_append, hstep, List.length_cons] at h
      have hlast := ih (by omega)
      rw [List.getLast?_cons, hlast]
      rfl

/-- A segment whose bracket is never closed: a closer at the end of an attribute is escaped. -/
def IsOpen (g : Segment) : Prop :=
  (g.kind = .attribute ∧ ∀ before, g.text = before ++ [']'] → before.getLast? = some '\\') ∨
    (g.isPseudo = true ∧ '(' ∈ g.text)

theorem takeWhile_isBlank_append {c : Char} {cs : Text} (hblank : isBlank c = true) (hplain : EndsPlain (c :: cs)) :
    (cs ++ w).takeWhile isBlank = cs.takeWhile isBlank := by
  rw [List.takeWhile_append, if_neg]
  intro hlength
  have hall : ∀ d ∈ cs, isBlank d = true := by
    apply List.all_eq_true.mp
    rw [← (List.takeWhile_prefix isBlank).eq_of_length hlength]
    exact List.all_takeWhile
  obtain ⟨d, hd⟩ : ∃ d, (c :: cs).getLast? = some d := ⟨_, List.getLast?_eq_some_getLast (List.cons_ne_nil c cs)⟩
  apply Bool.false_ne_true
  rw [← hplain d hd]
  rcases List.mem_cons.mp (List.mem_of_getLast? hd) with rfl | hmem
  · exact hblank
  · exact hall d hmem

/-- An attribute that takes in the blanks behind it is open. -/
theorem isOpen_attribute (hne : w ≠ []) {cs : Text} (h : attributeExtent (cs ++ w) = (cs ++ w).length) :
    IsOpen ⟨.attribute, '[' :: cs⟩ := by
  refine .inl ⟨rfl, fun before hbefore => ?_⟩
  cases before with
  | nil => cases hbefore
  | cons d a =>
    obtain ⟨rfl, hcs⟩ := List.cons.inj hbefore
    obtain rfl : cs = a ++ [']'] := hcs
    have hpos := List.length_pos_of_ne_nil hne
    rw [List.append_assoc, List.singleton_append] at h
    have hlast : a.getLast? = some '\\' := by
      apply getLast?_of_attributeExtent a (w := w)
      rw [h, List.length_append, List.length_cons]
      omega
    rw [List.getLast?_cons, hlast]
    rfl

section Blanks

variable {w : Text} (hw : ∀ c ∈ w, isBlank c = true)
include hw

theorem separated_of_blanks : Separated w := fun c hc => .inl (hw c (List.mem_of_head? hc))

theorem not_mem_blanks {c : Char} (hc : isBlank c = false) : c ∉ w := fun hmem =>
  Bool.false_ne_true (hc.symm.trans (hw c hmem))

theorem pseudoExtent_cases (a : Text) :
    pseudoExtent (a ++ w) = pseudoExtent a ∨
      pseudoExtent a = a.length ∧ pseudoExtent (a ++ w) = (a ++ w).length ∧ '(' ∈ a := by
  have hsplit := List.takeWhile_append_dropWhile (p := isNameChar) (l := a)
  have hname : (a ++ w).takeWhile isNameChar = a.takeWhile isNameChar :=
    takeWhile_append_of_stop (separated_of_blanks hw).takeWhile_eq_nil
  cases hrest : a.dropWhile isNameChar with
  | nil =>
    have ha : ∀ c ∈ a, isNameChar c = true := List.dropWhile_eq_nil_iff.mp hrest
    have hnil : Separated [] := fun c hc => by cases hc
    have hself := hnil.pseudoExtent_append_of_all ha
    rw [List.append_nil] at hself
    exact .inl (((separated_of_blanks hw).pseudoExtent_append_of_all ha).trans hself.symm)
  | cons c cs =>
    have hdrop : (a ++ w).drop (a.takeWhile isNameChar).length = c :: (cs ++ w) := by
      rw [List.drop_append_of_le_length (List.takeWhile_prefix _).length_le, drop_length_takeWhile, hrest]
      rfl
    rw [pseudoExtent, pseudoExtent, hname, hdrop, drop_length_takeWhile, hrest]
    by_cases hc : c = '('
    · subst hc
      have hlength := congrArg List.length hsplit
      rw [hrest, List.length_append, List.length_cons] at hlength
      simp only
      rcases groupExtent_cases (not_mem_blanks hw (by decide)) 0 cs with hclosed | ⟨hself, hlonger⟩
      · exact .inl (by rw [hclosed])
      · refine .inr ⟨by omega, ?_, ?_⟩
        · rw [hlonger, List.length_append, List.length_append]
          omega
        · rw [← hsplit, hrest]
          simp
    · left
      split
      · rename_i heq
        exact absurd (List.cons.inj heq).1 hc
      · split
        · rename_i heq
          exact absurd (List.cons.inj heq).1 hc
        · rfl

theorem opening_append_blanks (hne : w ≠ []) {c : Char} {cs : Text} (hplain : EndsPlain (c :: cs)) :
    opening c (cs ++ w) = opening c cs ∨
      (opening c cs).2 = cs.length ∧ opening c (cs ++ w) = ((opening c cs).1, (cs ++ w).length) ∧
        IsOpen ⟨(opening c cs).1, c :: cs⟩ := by
  have hseparated := separated_of_blanks hw
  by_cases hblank : isBlank c = true
  · left
    unfold opening
    rw [if_pos hblank, if_pos hblank, takeWhile_isBlank_append hblank hplain]
  by_cases hcolon : c = ':'
  · subst hcolon
    by_cases hhead : cs.head? = some ':'
    · obtain ⟨ds, rfl⟩ := List.head?_eq_some_iff.mp hhead
      rw [List.cons_append, opening_colon_colon, opening_colon_colon]
      rcases pseudoExtent_cases hw ds with hsame | ⟨hself, hlonger, hmem⟩
      · exact .inl (by rw [hsame])
      · exact .inr ⟨by rw [hself]; rfl, by rw [hlonger]; rfl, .inr ⟨rfl, by simp [hmem]⟩⟩
    · have hcolon : (cs ++ w).head? ≠ some ':' := by
        cases cs with
        | nil => exact hseparated.head?_ne
        | cons d ds => exact hhead
      rw [opening_colon hhead, opening_colon hcolon]
      rcases pseudoExtent_cases hw cs with hsame | ⟨hself, hlonger, hmem⟩
      · exact .inl (by rw [hsame])
      · exact .inr ⟨hself, by rw [hlonger], .inr ⟨rfl, by simp [hmem]⟩⟩
  by_cases hbracket : c = '['
  · subst hbracket
    rw [opening_bracket, opening_bracket]
    rcases attributeExtent_cases (not_mem_blanks hw (c := ']') (by decide)) cs with hsame | ⟨hself, hlonger⟩
    · exact .inl (by rw [hsame])
    · exact .inr ⟨hself, by rw [hlonger], isOpen_attribute hne hlonger⟩
  · have hnothing : Separated [] := fun d hd => by cases hd
    have hsame := opening_congr (a := cs) (Bool.eq_false_iff.mpr hblank) hcolon hbracket hnothing hseparated
    rw [List.append_nil] at hsame
    exact .inl hsame

theorem scanned_whitespace {A : List Segment} (hne : w ≠ []) (hA : ∀ c ∈ (textOf A).head?, isBlank c = false)
    (h : Scanned A []) : Scanned (⟨.whitespace, w⟩ :: A) [] := by
  obtain ⟨c, cs, rfl⟩ := List.exists_cons_of_ne_nil hne
  obtain ⟨hc, hcs⟩ := List.forall_mem_cons.mp hw
  exact scanned_cons.mpr ⟨⟨c, cs, rfl, opening_blanks hc hcs (by rwa [List.append_nil])⟩, h⟩

/-- Blanks behind segments are a segment of their own, or belong to a last segment that is open. -/
theorem scanned_append_blanks (hne : w ≠ []) {A : List Segment} (h : Scanned A []) (hplain : EndsPlain (textOf A)) :
    Scanned (A ++ [⟨.whitespace, w⟩]) [] ∨
      ∃ B g, A = B ++ [g] ∧ IsOpen g ∧ Scanned (B ++ [⟨g.kind, g.text ++ w⟩]) [] := by
  induction A with
  | nil => exact .inl (scanned_whitespace hw hne (fun c hc => by cases hc) (scanned_nil []))
  | cons g A ih =>
    obtain ⟨⟨c, cs, htext, hopening⟩, hA⟩ := scanned_cons.mp h
    rw [List.append_nil] at hopening
    rw [textOf_cons, htext, List.cons_append] at hplain
    rcases opening_append_blanks hw hne hplain with hsame | ⟨hself, hlonger, hopen⟩
    · rw [hopening, List.append_assoc] at hsame
      have hrest : EndsPlain (textOf A) := by
        intro d hd
        refine hplain d ?_
        rw [List.getLast?_cons, List.getLast?_append, Option.mem_def.mp hd]
        rfl
      rcases ih hA hrest with hscanned | ⟨B, k, rfl, hopen, hscanned⟩
      · left
        refine scanned_cons.mpr ⟨⟨c, cs, htext, ?_⟩, hscanned⟩
        simpa using hsame
      · right
        refine ⟨g :: B, k, rfl, hopen, scanned_cons.mpr ⟨⟨c, cs, htext, ?_⟩, hscanned⟩⟩
        simpa using hsame
    · rw [hopening, List.length_append, Nat.left_eq_add, List.length_eq_zero_iff] at hself
      have hnil : A = [] := by
        cases A with
        | nil => rfl
        | cons k A =>
          obtain ⟨⟨d, ds, hd, -⟩, -⟩ := scanned_cons.mp hA
          rw [textOf_cons, hd] at hself
          cases hself
      subst hnil
      rw [hself, List.append_nil] at hlonger hopen hopening
      rw [hopening] at hlonger hopen
      right
      refine ⟨[], g, rfl, by rwa [← htext] at hopen, scanned_cons.mpr ⟨⟨c, cs ++ w, by rw [htext]; rfl, ?_⟩, hA⟩⟩
      simpa using hlonger

end Blanks

/-! ### What blanks do to the writing -/

theorem dropOpeningQuote_suffix (s : Text) : (if s.head?.any Nesting.isQuote then s.drop 1 else s) <:+ s := by
  split
  · exact List.drop_suffix 1 s
  · exact List.suffix_refl s

/-- Between a value and the closer of its attribute stand a quote and blanks at most. -/
theorem exists_of_closing {s : Text}
    (h : (if s.head?.any Nesting.isQuote then s.drop 1 else s).dropWhile isBlank = [']']) :
    ∃ after, s = after ++ [']'] ∧ '\\' ∉ after := by
  have hblanks : ∀ t : Text, t.dropWhile isBlank = [']'] →
      t = t.takeWhile isBlank ++ [']'] ∧ '\\' ∉ t.takeWhile isBlank := by
    intro t ht
    refine ⟨by rw [← ht, List.takeWhile_append_dropWhile], fun hmem => ?_⟩
    exact absurd (List.mem_takeWhile_imp hmem) (by decide)
  split at h
  · rename_i hquote
    obtain ⟨q, hq, hquote⟩ := (Option.any_eq_true _ _).mp hquote
    obtain ⟨t, rfl⟩ := List.head?_eq_some_iff.mp hq
    obtain ⟨hsplit, hmem⟩ := hblanks t h
    refine ⟨q :: t.takeWhile isBlank, congrArg (q :: ·) hsplit, ?_⟩
    rw [List.mem_cons, not_or]
    refine ⟨?_, hmem⟩
    rintro rfl
    cases hquote
  · exact ⟨s.takeWhile isBlank, hblanks s h⟩

theorem exists_of_askedType? {g : Segment} {type : Text} (h : askedType? g = some type) :
    type ≠ [] ∧ ∃ before after, g.text = before ++ (type ++ (after ++ [']'])) ∧ '\\' ∉ after := by
  unfold askedType? at h
  split at h
  · cases h
  · split at h
    · rename_i rest htext
      simp only at h
      split at h
      · cases h
      · rw [Option.ite_none_right_eq_some, Option.some.injEq, Bool.and_eq_true, beq_iff_eq] at h
        obtain ⟨⟨hne, hclosing⟩, rfl⟩ := h
        obtain ⟨after, hafter, hmem⟩ := exists_of_closing hclosing
        have hsuffix := (((((dropOpeningQuote_suffix _).trans (List.dropWhile_suffix isBlank)).trans
          (List.drop_suffix 1 _)).trans (List.dropWhile_suffix isBlank)).trans (List.drop_suffix 4 _)).trans
          (List.dropWhile_suffix (l := rest) isBlank)
        obtain ⟨before, hbefore⟩ := hsuffix
        refine ⟨by simpa using hne, '[' :: before, after, ?_, hmem⟩
        rw [htext, ← hafter, List.takeWhile_append_dropWhile, List.cons_append, hbefore]
    · cases h

theorem trim_inputSelector (type : Text) : trim (Control.inputSelector type) = Control.inputSelector type := by
  have hform : Control.inputSelector type = "input[type=\"".toList ++ type ++ "\"]".toList := rfl
  have hstart : "input[type=\"".toList.head? = some 'i' := by decide
  have hend : "\"]".toList.getLast? = some ']' := by decide
  refine trim_eq_self (fun c hc => ?_) fun c hc => ?_
  · rw [hform, List.append_assoc, List.head?_append, hstart, Option.some_or] at hc
    obtain rfl := Option.some.inj hc
    decide
  · rw [hform, List.getLast?_append, hend, Option.some_or] at hc
    obtain rfl := Option.some.inj hc
    decide

theorem ofSelector?_inputSelector {type : Text} (h : '\\' ∈ type) :
    Control.ofSelector? (Control.inputSelector type) = none := by
  have hnames : ∀ selector ∈ Entries.names Control.bySelector, '\\' ∉ selector := by decide
  have hmem : '\\' ∈ lower (Control.inputSelector type) :=
    mem_lowerAfter (by decide) (by decide) (List.mem_append_left _ (List.mem_append_right _ h))
  rw [Control.ofSelector?, trim_inputSelector, Entries.get?, List.lookup_eq_none_iff]
  intro entry hentry
  rw [bne_iff_ne]
  intro heq
  rw [heq] at hmem
  exact hnames entry.1 (List.mem_map_of_mem hentry) hmem

/-- No table has the type that an open attribute asks for, since the backslash before its closer belongs to the type. -/
theorem typedInput?_of_isOpen {g : Segment} (hg : IsOpen g) (tag : Text) : typedInput? tag g = none := by
  rw [typedInput?]
  split
  · cases htype : askedType? g with
    | none => rfl
    | some type =>
      obtain ⟨hne, before, after, htext, hafter⟩ := exists_of_askedType? htype
      refine ofSelector?_inputSelector ?_
      rcases hg with ⟨-, hescaped⟩ | ⟨hpseudo, -⟩
      · have hlast := hescaped (before ++ (type ++ after)) (by rw [htext]; simp)
        have hmem : '\\' ∈ (type ++ after).getLast? := by
          rwa [List.getLast?_append_of_ne_nil _ (by simp [hne])] at hlast
        exact (List.mem_append.mp (List.mem_of_getLast? hmem)).resolve_right hafter
      · have hkind : g.kind ≠ .attribute := by
          rintro heq
          rw [isPseudo, heq] at hpseudo
          cases hpseudo
        rw [askedType?, if_pos hkind] at htype
        cases htype
  · rfl

theorem typedInput?_of_getLast? {g : Segment} (hg : ∀ c ∈ g.text.getLast?, isBlank c = true) (tag : Text) :
    typedInput? tag g = none := by
  rw [typedInput?]
  split
  · cases htype : askedType? g with
    | none => rfl
    | some type =>
      obtain ⟨-, before, after, htext, -⟩ := exists_of_askedType? htype
      have hlast : g.text.getLast? = some ']' := by
        rw [htext, ← List.append_assoc, ← List.append_assoc, List.getLast?_concat]
      exact absurd (hg ']' hlast) (by decide)
  · rfl

theorem rewriting_append_separator {g : Segment} (hg : g.isSeparator = true) (A B : List Segment) :
    rewriting (A ++ g :: B) = rewriting A ++ (rewriteCompound [g] ++ rewriting B) := by
  induction A using compound_induction with
  | nil => exact rewriting_cons hg B
  | separator k A hk ih => rw [List.cons_append, rewriting_cons hk, rewriting_cons hk, ih, List.append_assoc]
  | compound C A hne hC hA ih =>
    have hhead : ∀ k ∈ (A ++ g :: B).head?, k.isSeparator = true := by
      cases A with
      | nil => exact fun k hk => Option.some.inj hk ▸ hg
      | cons k A => exact hA
    rw [List.append_assoc, rewriting_append hne hC hhead, rewriting_append hne hC hA, ih, List.append_assoc]

theorem exists_rewriting_concat {k : SegmentKind} (hk : k ≠ .combinator ∧ k ≠ .whitespace) (A : List Segment) :
    ∃ B C, ∀ text, rewriting (A ++ [⟨k, text⟩]) = B ++ rewriteCompound (C ++ [⟨k, text⟩]) := by
  have hseparator : ∀ text, (⟨k, text⟩ : Segment).isSeparator = false := fun text => by
    rw [isSeparator, beq_false_of_ne hk.1, beq_false_of_ne hk.2]
    rfl
  have hcompound : ∀ (C : List Segment), (∀ g ∈ C, g.isSeparator = false) → ∀ text,
      rewriting (C ++ [⟨k, text⟩]) = rewriteCompound (C ++ [⟨k, text⟩]) := by
    intro C hC text
    have happend := rewriting_append (C := C ++ [⟨k, text⟩]) (A := []) (by simp)
      (List.forall_mem_append.mpr ⟨hC, List.forall_mem_singleton.mpr (hseparator text)⟩) (fun g hg => by cases hg)
    rwa [List.append_nil, show rewriting [] = [] from rfl, List.append_nil] at happend
  induction A using compound_induction with
  | nil => exact ⟨[], [], hcompound [] (fun g hg => by cases hg)⟩
  | separator g A hg ih =>
    obtain ⟨B, C, h⟩ := ih
    refine ⟨rewriteCompound [g] ++ B, C, fun text => ?_⟩
    rw [List.cons_append, rewriting_cons hg, h, List.append_assoc]
  | compound D A hne hD hA ih =>
    cases A with
    | nil => exact ⟨[], D, by simpa using hcompound D hD⟩
    | cons g A =>
      obtain ⟨B, C, h⟩ := ih
      refine ⟨rewriteCompound D ++ B, C, fun text => ?_⟩
      have hhead : ∀ last ∈ (g :: A ++ [(⟨k, text⟩ : Segment)]).head?, last.isSeparator = true := hA
      rw [List.append_assoc, rewriting_append hne hD hhead, h, List.append_assoc]

theorem IsOpen.kind {g : Segment} (hg : IsOpen g) :
    g.kind = .attribute ∨ g.kind = .pseudoClass ∨ g.kind = .pseudoElement := by
  rcases hg with ⟨hkind, -⟩ | ⟨hpseudo, -⟩
  · exact .inl hkind
  · rw [isPseudo, Bool.or_eq_true, beq_iff_eq, beq_iff_eq] at hpseudo
    exact .inr hpseudo

theorem rewriteCompound_tag (tag : Text) (next : Segment) (rest : List Segment) (h : typedInput? tag next = none) :
    rewriteCompound (⟨.typeName, tag⟩ :: next :: rest) = elementName tag ++ textOf (next :: rest) := by
  rw [rewriteCompound, h]

theorem rewriteCompound_of_ne {t : Segment} (ht : t.kind ≠ .typeName) {A : List Segment} (hA : A ≠ []) :
    rewriteCompound (t :: A) = textOf (t :: A) := by
  obtain ⟨next, rest, rfl⟩ := List.exists_cons_of_ne_nil hA
  obtain ⟨kind, text⟩ := t
  cases kind with
  | typeName => exact absurd rfl ht
  | _ => rfl

/-- Blanks at the end of an open segment are written as they are. -/
theorem rewriteCompound_concat {w : Text} (hw : ∀ c ∈ w, isBlank c = true) (hne : w ≠ []) {g : Segment}
    (hg : IsOpen g) (C : List Segment) :
    rewriteCompound (C ++ [⟨g.kind, g.text ++ w⟩]) = rewriteCompound (C ++ [g]) ++ w := by
  have hlonger : ∀ tag, typedInput? tag ⟨g.kind, g.text ++ w⟩ = none := by
    refine typedInput?_of_getLast? fun c hc => ?_
    rw [List.getLast?_append_of_ne_nil _ hne] at hc
    exact hw c (List.mem_of_getLast? hc)
  have htext : ∀ A : List Segment, textOf (A ++ [⟨g.kind, g.text ++ w⟩]) = textOf (A ++ [g]) ++ w := by
    intro A
    simp
  cases C with
  | nil =>
    obtain ⟨kind, text⟩ := g
    rcases hg.kind with rfl | rfl | rfl <;> exact htext []
  | cons t C =>
    obtain ⟨kind, tag⟩ := t
    by_cases hkind : kind = .typeName
    · subst hkind
      cases C with
      | nil =>
        rw [List.singleton_append, List.singleton_append, rewriteCompound_tag _ _ _ (hlonger tag),
          rewriteCompound_tag _ _ _ (typedInput?_of_isOpen hg tag), List.append_assoc]
        exact congrArg (elementName tag ++ ·) (htext [])
      | cons next C =>
        rw [List.cons_append, List.cons_append, List.cons_append, List.cons_append, rewriteCompound, rewriteCompound]
        cases typedInput? tag next with
        | none => simp
        | some control => simp
    · rw [List.cons_append, List.cons_append, rewriteCompound_of_ne hkind (by simp), rewriteCompound_of_ne hkind (by simp)]
      exact htext (⟨kind, tag⟩ :: C)

/-! ### Blanks around a selector -/

theorem refusal?_append_blanks {g : Segment} (hg : IsOpen g) (w : Text) :
    refusal? ⟨g.kind, g.text ++ w⟩ = g.refusal? := by
  obtain ⟨kind, text⟩ := g
  rcases hg with ⟨hkind, -⟩ | ⟨hpseudo, hparen⟩
  · obtain rfl : kind = .attribute := hkind
    rfl
  · have htake : (text ++ w).takeWhile (· ≠ '(') = text.takeWhile (· ≠ '(') := by
      rw [List.takeWhile_append, if_neg]
      intro hlength
      rw [← (List.takeWhile_prefix _).eq_of_length hlength] at hparen
      exact absurd (List.mem_takeWhile_imp hparen) (by decide)
    have hname : Pseudo.nameOf ⟨kind, text ++ w⟩ = Pseudo.nameOf ⟨kind, text⟩ := congrArg lower htake
    have helement : Pseudo.isElement ⟨kind, text ++ w⟩ = Pseudo.isElement ⟨kind, text⟩ := by
      rw [Pseudo.isElement, Pseudo.isElement, hname]
    have hsupported : Pseudo.isSupported ⟨kind, text ++ w⟩ = Pseudo.isSupported ⟨kind, text⟩ := by
      rw [Pseudo.isSupported, Pseudo.isSupported, helement, hname]
    have hkind : (kind == .unknown) = false := by
      refine beq_false_of_ne ?_
      rintro rfl
      cases hpseudo
    rw [refusal?, refusal?, hkind, if_neg Bool.false_ne_true, if_neg Bool.false_ne_true, hsupported, helement, hname]
    rfl

theorem scan_blanks_append {w : Text} (hw : ∀ c ∈ w, isBlank c = true) {s : Text}
    (hs : ∀ c ∈ s.head?, isBlank c = false) :
    (scan (w ++ s)).findSome? refusal? = (scan s).findSome? refusal? ∧
      ∃ v, (∀ c ∈ v, isBlank c = true) ∧ rewriting (scan (w ++ s)) = v ++ rewriting (scan s) := by
  by_cases hne : w = []
  · subst hne
    exact ⟨rfl, [], hw, rfl⟩
  have hscan : scan (w ++ s) = ⟨.whitespace, w⟩ :: scan s := by
    have hscanned := scanned_whitespace hw hne (A := scan s) (by rwa [textOf_scan]) (scanned_scan s)
    have hscan := hscanned.scan_eq
    rwa [textOf_cons, textOf_scan] at hscan
  rw [hscan]
  refine ⟨rfl, [' '], by decide, ?_⟩
  rw [rewriting_cons rfl]
  rfl

theorem scan_append_blanks {w : Text} (hw : ∀ c ∈ w, isBlank c = true) {s : Text} (hs : EndsPlain s) :
    (scan (s ++ w)).findSome? refusal? = (scan s).findSome? refusal? ∧
      ∃ v, (∀ c ∈ v, isBlank c = true) ∧ rewriting (scan (s ++ w)) = rewriting (scan s) ++ v := by
  by_cases hne : w = []
  · subst hne
    rw [List.append_nil]
    exact ⟨rfl, [], hw, (List.append_nil _).symm⟩
  rcases scanned_append_blanks hw hne (scanned_scan s) (by rwa [textOf_scan]) with hscanned | ⟨B, g, hB, hopen, hscanned⟩
  · have hscan := hscanned.scan_eq
    rw [textOf_append, textOf_scan, textOf_cons, textOf_nil, List.append_nil] at hscan
    rw [hscan]
    refine ⟨?_, [' '], by decide, ?_⟩
    · rw [List.findSome?_append]
      exact Option.or_none
    · exact rewriting_append_separator rfl (scan s) []
  · have hscan := hscanned.scan_eq
    have hs : s = textOf (B ++ [g]) := by rw [← hB, textOf_scan]
    have hsource : textOf (B ++ [⟨g.kind, g.text ++ w⟩]) = s ++ w := by
      rw [hs]
      simp
    rw [hsource] at hscan
    have hkind : g.kind ≠ .combinator ∧ g.kind ≠ .whitespace := by
      rcases hopen.kind with h | h | h <;> rw [h] <;> decide
    obtain ⟨D, C, hwritten⟩ := exists_rewriting_concat hkind B
    rw [hscan, hB]
    refine ⟨?_, w, hw, ?_⟩
    · rw [List.findSome?_append, List.findSome?_append, List.findSome?_singleton, List.findSome?_singleton,
        refusal?_append_blanks hopen]
    · rw [hwritten, rewriteCompound_concat hw hne hopen, show [g] = [⟨g.kind, g.text⟩] from rfl, hwritten,
        List.append_assoc]

end Segment

namespace Selector

open Text Segment Denylist

/-- Blanks around a selector make no difference to its rewriting. -/
theorem rewrite_trim (policy : Policy) (raw : Text) :
    (Selector.ofText (trim raw)).rewrite policy = (Selector.ofText raw).rewrite policy := by
  obtain ⟨blanks, hblanks, hall⟩ := exists_eq_dropEndWhile_append isBlank (raw.dropWhile isBlank)
  have hraw : raw = raw.takeWhile isBlank ++ raw.dropWhile isBlank := List.takeWhile_append_dropWhile.symm
  have hrest : raw.dropWhile isBlank = trim raw ++ blanks := hblanks
  obtain ⟨hfront, v, hv, hwritten⟩ := scan_blanks_append (w := raw.takeWhile isBlank)
    (fun c hc => List.mem_takeWhile_imp hc) (s := raw.dropWhile isBlank) (fun c hc => not_of_mem_head?_dropWhile hc)
  obtain ⟨hback, v', hv', hwritten'⟩ := scan_append_blanks hall (s := trim raw) (fun c hc => getLast?_trim hc)
  rw [← hraw, hrest] at hfront hwritten
  have hrefusal : (Selector.ofText (trim raw)).refusal? policy = (Selector.ofText raw).refusal? policy := by
    rw [refusal?, refusal?, ofText, ofText, words_trim, hfront, hback]
  have hrewritten : (Selector.ofText (trim raw)).rewritten = (Selector.ofText raw).rewritten := by
    calc trim (rewriting (scan (trim raw))) = trim (v ++ (rewriting (scan (trim raw)) ++ v')) :=
          (trim_append hv hv' _).symm
      _ = trim (rewriting (scan raw)) := by rw [hwritten, hwritten']
  rw [rewrite, rewrite, hrefusal, hrewritten]

theorem rewrite_eq_ok {policy : Policy} {s : Selector} {text : Text} (h : s.rewrite policy = .ok text) :
    s.refusal? policy = none ∧ s.rewritten = text := by
  unfold rewrite at h
  split at h
  · cases h
  · rename_i hnone
    exact ⟨hnone, Except.ok.inj h⟩

theorem rewrite_of_refusal?_eq_none {policy : Policy} {s : Selector} (h : s.refusal? policy = none) :
    s.rewrite policy = .ok s.rewritten := by
  rw [rewrite, h]

/-- An accepted segment can be read, and if it is a pseudo class it is one of USS. -/
theorem supported_of_refusal?_eq_none {g : Segment} (h : g.refusal? = none) :
    g.kind ≠ .unknown ∧ (g.isPseudo = true → Pseudo.isSupported g = true) := by
  unfold Segment.refusal? at h
  split at h
  · cases h
  · rename_i hkind
    split at h
    · cases h
    · rename_i hpseudo
      refine ⟨fun heq => hkind (by rw [heq]; rfl), fun hg => ?_⟩
      rw [hg, Bool.true_and, Bool.not_eq_true, Bool.not_eq_false'] at hpseudo
      exact hpseudo

/--
What an accepted selector is rewritten to is accepted as it stands if no word of it meets the denylist. It has no segment that USS lacks, and meets no fragment of the bundled denylist.
-/
theorem rewrite_rewrite {policy : Policy} {raw text : Text} (h : (Selector.ofText raw).rewrite policy = .ok text) :
    ((∀ word ∈ words text, policy.breakingMatch? word = none) → (Selector.ofText text).rewrite policy = .ok text) ∧
      (∀ g ∈ scan text, g.kind ≠ .unknown ∧ (g.isPseudo = true → Pseudo.isSupported g = true)) ∧
      (policy.denylist = Policy.bundled.denylist → (∀ word ∈ words text, policy.breakingMatch? word = none) ∧
        ∀ fragment ∈ policy.denylist, occursIn fragment (lower text) = false) := by
  rw [← rewrite_trim] at h
  obtain ⟨hnone, rfl⟩ := rewrite_eq_ok h
  obtain ⟨hwords, haccepted⟩ := refusal?_eq_none_iff.mp hnone
  have htrim := trim_trim raw
  obtain ⟨hstays, hrewritten⟩ := rewritten_accepted htrim haccepted
  refine ⟨fun hmeets => ?_, fun g hg => supported_of_refusal?_eq_none (hstays g hg), fun hdenylist => ?_⟩
  · rw [rewrite_of_refusal?_eq_none (refusal?_eq_none_iff.mpr ⟨hmeets, hstays⟩), hrewritten]
  · have hbundled : policy.breakingMatch? = Policy.bundled.breakingMatch? := by
      funext word
      rw [Policy.breakingMatch?, Policy.breakingMatch?, hdenylist]
    rw [hbundled] at hwords ⊢
    rw [hdenylist]
    constructor
    · intro word hword
      rw [breakingMatch?_eq_none_iff]
      intro fragment hfragment
      exact (not_infix_rewritten htrim haccepted hwords hfragment).1 word hword
    · intro fragment hfragment
      rw [Bool.eq_false_iff, ne_eq, occursIn_iff]
      exact (not_infix_rewritten htrim haccepted hwords hfragment).2

/-- An attribute that asks for a type gives way to the element, and a bracket that is left open keeps no blanks. -/
theorem rewrite_rewrite_openBracket :
    ((Selector.ofText "  input[type='checkbox'].2x > body [x ").rewrite Policy.bundled = .ok "Toggle.2x > :root [x") ∧
      (Selector.ofText "Toggle.2x > :root [x").rewrite Policy.bundled = .ok "Toggle.2x > :root [x" := by
  have h : (Selector.ofText "  input[type='checkbox'].2x > body [x ").rewrite Policy.bundled =
      .ok "Toggle.2x > :root [x" := by decide +kernel
  obtain ⟨hstays, -, hbundled⟩ := rewrite_rewrite h
  exact ⟨h, hstays (hbundled rfl).1⟩

end Selector

end UiToolkit
