import UiToolkit.Proofs.Words
import UiToolkit.Uss.Selector

/-!
# Scanning selectors

The segments of a selector put together are its text. Where the text of a segment ends does not depend on what comes after the compound that it stands in: behind a compound stands a blank or a combinator, or nothing, and no segment looks past these.
-/

namespace UiToolkit

namespace Segment

open Text

/-! ### Extents -/

theorem typeExtent_le (s : Text) : typeExtent s ≤ s.length := by
  induction s with
  | nil => exact Nat.le_refl 0
  | cons c cs ih =>
    rw [typeExtent, List.length_cons]
    split <;> omega

theorem groupExtent_le (depth : Nat) (s : Text) : groupExtent depth s ≤ s.length := by
  induction s generalizing depth with
  | nil => exact Nat.le_refl 0
  | cons c cs ih =>
    have hsucc := ih (depth + 1)
    have hsame := ih depth
    rw [List.length_cons]
    unfold groupExtent
    split
    · omega
    · split
      · split
        · omega
        · rename_i inner
          have := ih inner
          omega
      · omega

theorem attributeExtent_le (s : Text) : attributeExtent s ≤ s.length := by
  fun_induction attributeExtent s with
  | case1 => exact Nat.le_refl 0
  | case2 cs => simp
  | case3 c cs ih => simpa using ih
  | case4 c cs _ _ ih => simpa using ih

theorem pseudoExtent_le (s : Text) : pseudoExtent s ≤ s.length := by
  have hname := (List.takeWhile_prefix isNameChar (l := s)).length_le
  rw [pseudoExtent]
  split
  · rename_i rest hrest
    have hlength := congrArg List.length hrest
    have hgroup := groupExtent_le 0 rest
    rw [List.length_drop, List.length_cons] at hlength
    omega
  · exact hname

theorem opening_le (c : Char) (cs : Text) : (opening c cs).2 ≤ cs.length := by
  have hblank := (List.takeWhile_prefix isBlank (l := cs)).length_le
  have hname := (List.takeWhile_prefix isNameChar (l := cs)).length_le
  have hpseudo := pseudoExtent_le cs
  have hattribute := attributeExtent_le cs
  have htype := typeExtent_le cs
  unfold opening
  repeat' split
  all_goals try first | assumption | exact Nat.zero_le _
  rename_i rest
  have := pseudoExtent_le rest
  simp only [List.length_cons]
  omega

/-! ### What stands behind a compound -/

/-- Nothing, or a text that begins with a blank or a combinator. -/
def Separated (s : Text) : Prop := ∀ c ∈ s.head?, isBlank c = true ∨ isCombinator c = true

theorem not_isTypeChar_of_separates {c : Char} (h : isBlank c = true ∨ isCombinator c = true) :
    isTypeChar c = false ∧ c ≠ '.' ∧ c ≠ ':' ∧ c ≠ '(' := by
  have hall : (!isTypeChar c && c != '.' && c != ':' && c != '(') = true := by
    rcases h with h | h
    · have hother := forall_blank
        (p := fun c => !(c == '-' || c == '_' || c == '\\' || c == '|') && c != '.' && c != ':' && c != '(') (by decide) h
      simpa [isTypeChar, isNameChar, isAlphanumeric_of_isBlank h] using hother
    · simp only [isCombinator, Bool.or_eq_true, beq_iff_eq] at h
      rcases h with (rfl | rfl) | rfl <;> decide
  simpa [and_assoc] using hall

theorem isNameChar_of_isTypeChar_eq_false {c : Char} (h : isTypeChar c = false) : isNameChar c = false := by
  rw [isTypeChar, Bool.or_eq_false_iff] at h
  exact h.1

variable {a b z : Text}

namespace Separated

theorem takeWhile_eq_nil (hb : Separated b) : b.takeWhile isNameChar = [] := by
  cases b with
  | nil => rfl
  | cons c cs =>
    have := isNameChar_of_isTypeChar_eq_false (not_isTypeChar_of_separates (hb c rfl)).1
    rw [List.takeWhile_cons, this]
    rfl

theorem typeExtent_append (hb : Separated b) : typeExtent (a ++ b) = typeExtent a := by
  induction a with
  | nil =>
    cases b with
    | nil => rfl
    | cons c cs =>
      obtain ⟨htype, hpoint, -⟩ := not_isTypeChar_of_separates (hb c rfl)
      simp [typeExtent, htype, hpoint]
  | cons c cs ih =>
    have hdigit : startsWithDigit (cs ++ b) = startsWithDigit cs := by
      cases cs with
      | nil =>
        cases b with
        | nil => rfl
        | cons d ds =>
          obtain ⟨htype, -⟩ := not_isTypeChar_of_separates (hb d rfl)
          simp only [isTypeChar, isNameChar, isAlphanumeric, Bool.or_eq_false_iff] at htype
          exact htype.1.1.1.1.1.2
      | cons d ds => rfl
    rw [List.cons_append, typeExtent, typeExtent, hdigit, ih]

end Separated

theorem groupExtent_append {depth : Nat} (h : groupExtent depth (a ++ b) ≤ a.length) (hb : b ≠ []) :
    groupExtent depth (a ++ z) = groupExtent depth (a ++ b) := by
  induction a generalizing depth with
  | nil =>
    obtain ⟨c, cs, rfl⟩ := List.exists_cons_of_ne_nil hb
    rw [List.nil_append] at h
    unfold groupExtent at h
    split at h
    · cases h
    · split at h
      · split at h <;> cases h
      · cases h
  | cons c cs ih =>
    rw [List.cons_append, List.length_cons] at h
    rw [List.cons_append, List.cons_append]
    unfold groupExtent at h ⊢
    split at h
    · rename_i hopen
      rw [if_pos hopen, if_pos hopen, ih (by omega)]
    · rename_i hopen
      rw [if_neg hopen, if_neg hopen]
      split at h
      · rename_i hclose
        rw [if_pos hclose, if_pos hclose]
        cases depth with
        | zero => rfl
        | succ depth => simp only [@ih depth (by simpa using h)]
      · rename_i hclose
        rw [if_neg hclose, if_neg hclose, ih (by omega)]

theorem attributeExtent_pos (hb : b ≠ []) : 0 < attributeExtent b := by
  fun_cases attributeExtent b <;> simp_all

theorem attributeExtent_append (h : attributeExtent (a ++ b) ≤ a.length) (hb : b ≠ []) :
    attributeExtent (a ++ z) = attributeExtent (a ++ b) := by
  fun_induction attributeExtent a with
  | case1 => exact absurd h (Nat.not_le.mpr (attributeExtent_pos hb))
  | case2 cs => simp [attributeExtent]
  | case3 c cs ih =>
    simp only [List.cons_append, attributeExtent, List.length_cons, Nat.add_le_add_iff_right] at h ⊢
    rw [ih h]
  | case4 c cs hclose hescape ih =>
    rw [List.cons_append, List.cons_append]
    rw [List.cons_append, List.length_cons] at h
    by_cases hc : c = '\\'
    · subst hc
      have hnil : cs = [] := List.eq_nil_iff_forall_not_mem.mpr fun d hd => by
        obtain ⟨e, es, rfl⟩ := List.exists_cons_of_ne_nil (List.ne_nil_of_mem hd)
        exact hescape e es rfl rfl
      subst hnil
      obtain ⟨d, ds, rfl⟩ := List.exists_cons_of_ne_nil hb
      simp [attributeExtent] at h
    · have hstep : ∀ r, attributeExtent (c :: (cs ++ r)) = attributeExtent (cs ++ r) + 1 := fun r =>
        attributeExtent.eq_4 c (cs ++ r) hclose fun _ _ h _ => hc h
      rw [hstep] at h
      rw [hstep, hstep, ih (by omega)]

theorem Separated.pseudoExtent_append_of_all (hb : Separated b) (ha : ∀ c ∈ a, isNameChar c = true) :
    pseudoExtent (a ++ b) = a.length := by
  rw [pseudoExtent, List.takeWhile_append_of_pos ha, hb.takeWhile_eq_nil, List.append_nil, List.drop_left]
  cases b with
  | nil => rfl
  | cons c cs =>
    obtain ⟨-, -, -, hparen⟩ := not_isTypeChar_of_separates (hb c rfl)
    split
    · rename_i heq
      exact absurd (List.cons.inj heq).1 hparen
    · rfl

theorem pseudoExtent_append (hseparated : Separated b) (hz : Separated z) (h : pseudoExtent (a ++ b) ≤ a.length)
    (hb : b ≠ []) : pseudoExtent (a ++ z) = pseudoExtent (a ++ b) := by
  have hname : ∀ r, Separated r → (a ++ r).takeWhile isNameChar = a.takeWhile isNameChar :=
    fun r hr => takeWhile_append_of_stop hr.takeWhile_eq_nil
  have hdrop : ∀ r : Text, (a ++ r).drop (a.takeWhile isNameChar).length = a.dropWhile isNameChar ++ r := by
    intro r
    rw [List.drop_append_of_le_length (List.takeWhile_prefix _).length_le, drop_length_takeWhile]
  cases hrest : a.dropWhile isNameChar with
  | nil =>
    have ha : ∀ c ∈ a, isNameChar c = true := List.dropWhile_eq_nil_iff.mp hrest
    rw [hz.pseudoExtent_append_of_all ha, hseparated.pseudoExtent_append_of_all ha]
  | cons c cs =>
    rw [pseudoExtent, pseudoExtent, hname b hseparated, hname z hz, hdrop, hdrop, hrest, List.cons_append,
      List.cons_append]
    by_cases hc : c = '('
    · subst hc
      rw [pseudoExtent, hname b hseparated, hdrop, hrest, List.cons_append] at h
      have hlength := congrArg List.length (List.takeWhile_append_dropWhile (p := isNameChar) (l := a))
      rw [hrest, List.length_append, List.length_cons] at hlength
      simp only at h ⊢
      rw [groupExtent_append (by omega) hb]
    · split
      · rename_i heq
        exact absurd (List.cons.inj heq).1 hc
      · split
        · rename_i heq
          exact absurd (List.cons.inj heq).1 hc
        · rfl

theorem opening_colon_colon (cs : Text) : opening ':' (':' :: cs) = (.pseudoElement, pseudoExtent cs + 1) := by
  rfl

theorem opening_colon {cs : Text} (h : cs.head? ≠ some ':') : opening ':' cs = (.pseudoClass, pseudoExtent cs) := by
  cases cs with
  | nil => rfl
  | cons c cs =>
    have hc : c ≠ ':' := fun hc => h (congrArg some hc)
    unfold opening
    rw [if_neg (by decide), if_neg (by decide), if_neg (by decide), if_neg (by decide), if_neg (by decide),
      if_pos (by decide)]
    split
    · rename_i heq
      exact absurd (List.cons.inj heq).1 hc
    · rfl

theorem opening_bracket (cs : Text) : opening '[' cs = (.attribute, attributeExtent cs) := by
  unfold opening
  iterate 6 rw [if_neg (by decide)]
  rw [if_pos (by decide)]

theorem Separated.head?_ne (hb : Separated b) : b.head? ≠ some ':' := by
  intro hhead
  exact (not_isTypeChar_of_separates (hb ':' hhead)).2.2.1 rfl

theorem opening_colon_append (hseparated : Separated b) (hz : Separated z) (h : (opening ':' (a ++ b)).2 ≤ a.length)
    (hb : b ≠ []) : opening ':' (a ++ z) = opening ':' (a ++ b) := by
  by_cases hhead : a.head? = some ':'
  · obtain ⟨cs, rfl⟩ : ∃ cs, a = ':' :: cs := by
      cases a with
      | nil => cases hhead
      | cons d ds => exact ⟨ds, by rw [Option.some.inj hhead]⟩
    simp only [List.cons_append, opening_colon_colon, List.length_cons, Nat.add_le_add_iff_right] at h ⊢
    rw [pseudoExtent_append hseparated hz h hb]
  · have hcolon : ∀ r, Separated r → (a ++ r).head? ≠ some ':' := by
      intro r hr
      cases a with
      | nil => exact hr.head?_ne
      | cons d ds => exact hhead
    rw [opening_colon (hcolon b hseparated)] at h ⊢
    rw [opening_colon (hcolon z hz), pseudoExtent_append hseparated hz h hb]

/-- Without brackets it does not matter what separates the compound from the next one. -/
theorem opening_congr {c : Char} (hblank : isBlank c = false) (hcolon : c ≠ ':') (hbracket : c ≠ '[')
    (hseparated : Separated b) (hz : Separated z) : opening c (a ++ z) = opening c (a ++ b) := by
  have hname : (a ++ z).takeWhile isNameChar = (a ++ b).takeWhile isNameChar := by
    rw [takeWhile_append_of_stop hz.takeWhile_eq_nil, takeWhile_append_of_stop hseparated.takeWhile_eq_nil]
  have htype : typeExtent (a ++ z) = typeExtent (a ++ b) := by
    rw [hz.typeExtent_append, hseparated.typeExtent_append]
  unfold opening
  rw [hblank, beq_false_of_ne hcolon, beq_false_of_ne hbracket, hname, htype]
  rfl

theorem opening_append {c : Char} (hblank : isBlank c = false) (hseparated : Separated b) (hz : Separated z)
    (h : (opening c (a ++ b)).2 ≤ a.length) (hb : b = [] → z = []) : opening c (a ++ z) = opening c (a ++ b) := by
  by_cases hnil : b = []
  · rw [hnil, hb hnil]
  by_cases hcolon : c = ':'
  · subst hcolon
    exact opening_colon_append hseparated hz h hnil
  by_cases hbracket : c = '['
  · subst hbracket
    rw [opening_bracket] at h
    rw [opening_bracket, opening_bracket, attributeExtent_append h hnil]
  exact opening_congr hblank hcolon hbracket hseparated hz

/-! ### Texts that are scanned in place -/

@[simp] theorem textOf_nil : textOf [] = [] := rfl

@[simp] theorem textOf_cons (g : Segment) (A : List Segment) : textOf (g :: A) = g.text ++ textOf A := rfl

@[simp] theorem textOf_append (A B : List Segment) : textOf (A ++ B) = textOf A ++ textOf B := List.flatMap_append

theorem scan_nil : scan [] = [] := by
  rw [scan.eq_def]

theorem scan_cons (c : Char) (cs : Text) :
    scan (c :: cs) = ⟨(opening c cs).1, c :: cs.take (opening c cs).2⟩ :: scan (cs.drop (opening c cs).2) := by
  rw [scan.eq_def]

/-- The segments are what the scan makes of their text in front of `b`. -/
def Scanned (A : List Segment) (b : Text) : Prop := scan (textOf A ++ b) = A ++ scan b

theorem scanned_nil (b : Text) : Scanned [] b := rfl

theorem scanned_cons {g : Segment} {A : List Segment} {b : Text} :
    Scanned (g :: A) b ↔
      (∃ c cs, g.text = c :: cs ∧ opening c (cs ++ (textOf A ++ b)) = (g.kind, cs.length)) ∧ Scanned A b := by
  constructor
  · intro h
    rw [Scanned, textOf_cons, List.append_assoc] at h
    obtain ⟨c, cs, hsource⟩ : ∃ c cs, g.text ++ (textOf A ++ b) = c :: cs := by
      refine List.exists_cons_of_ne_nil fun hnil => ?_
      rw [hnil, scan_nil] at h
      cases h
    rw [hsource, scan_cons, List.cons_append, List.cons.injEq] at h
    obtain ⟨rfl, hA⟩ := h
    obtain ⟨-, hcs⟩ := List.cons.inj hsource
    have hrest : textOf A ++ b = cs.drop (opening c cs).2 :=
      List.append_cancel_left (hcs.trans (List.take_append_drop _ cs).symm)
    refine ⟨⟨c, cs.take (opening c cs).2, rfl, ?_⟩, by rwa [Scanned, hrest]⟩
    rw [hrest, List.take_append_drop, List.length_take, Nat.min_eq_left (opening_le c cs)]
  · rintro ⟨⟨c, cs, htext, hopening⟩, hA⟩
    rw [Scanned, textOf_cons, htext, List.append_assoc, List.cons_append, scan_cons, hopening, List.take_left,
      List.drop_left, hA, ← htext]
    rfl

theorem scanned_append {A B : List Segment} {b : Text} :
    Scanned (A ++ B) b ↔ Scanned A (textOf B ++ b) ∧ Scanned B b := by
  induction A with
  | nil => simp [scanned_nil]
  | cons g A ih =>
    rw [List.cons_append, scanned_cons, ih, scanned_cons, textOf_append, List.append_assoc, and_assoc]

theorem textOf_scan (s : Text) : textOf (scan s) = s := by
  induction hlength : s.length using Nat.strongRecOn generalizing s with
  | ind n ih =>
    cases s with
    | nil => rw [scan_nil, textOf_nil]
    | cons c cs =>
      rw [scan_cons, textOf_cons, ih _ (by rw [List.length_drop, ← hlength, List.length_cons]; omega) _ rfl, List.cons_append, List.take_append_drop]

theorem scanned_scan (s : Text) : Scanned (scan s) [] := by
  rw [Scanned, List.append_nil, scan_nil, List.append_nil, textOf_scan]

theorem Scanned.scan_eq {A : List Segment} (h : Scanned A []) : scan (textOf A) = A := by
  rwa [Scanned, List.append_nil, scan_nil, List.append_nil] at h

/-- Segments of one compound are scanned in the same way in front of the next compound, whatever that is. -/
theorem Scanned.congr {A : List Segment} (h : Scanned A b) (hseparated : Separated b) (hz : Separated z)
    (hb : b = [] → z = []) (hblank : ∀ g ∈ A, g.kind ≠ .whitespace) : Scanned A z := by
  induction A with
  | nil => exact scanned_nil z
  | cons g A ih =>
    obtain ⟨⟨c, cs, htext, hopening⟩, hA⟩ := scanned_cons.mp h
    have hc : isBlank c = false := by
      refine Bool.eq_false_iff.mpr fun hc => hblank g List.mem_cons_self ?_
      unfold opening at hopening
      rw [if_pos hc] at hopening
      exact (congrArg Prod.fst hopening).symm
    refine scanned_cons.mpr ⟨⟨c, cs, htext, ?_⟩, ih hA fun g hg => hblank g (List.mem_cons_of_mem _ hg)⟩
    rw [← List.append_assoc] at hopening ⊢
    rw [opening_append hc hseparated hz (by rw [hopening]; simp) hb, hopening]

/-! ### Segments by kind -/

/-- Segments that belong to a compound do not begin with a separating character. -/
theorem not_separates_of_opening {c : Char} {cs : Text} {k : SegmentKind} {n : Nat} (h : opening c cs = (k, n))
    (hk : k ≠ .whitespace ∧ k ≠ .combinator) : isBlank c = false ∧ isCombinator c = false := by
  unfold opening at h
  split at h
  · exact absurd (congrArg Prod.fst h).symm hk.1
  · split at h
    · exact absurd (congrArg Prod.fst h).symm hk.2
    · exact ⟨Bool.eq_false_iff.mpr ‹_›, Bool.eq_false_iff.mpr ‹_›⟩

/-- What may stand in a type name. -/
def isTypeText (s : Text) : Prop := ∀ c ∈ s, isTypeChar c = true ∨ c = '.'

theorem isTypeText_take_typeExtent (s : Text) : isTypeText (s.take (typeExtent s)) := by
  induction s with
  | nil => exact fun c hc => absurd hc (by simp)
  | cons c cs ih =>
    rw [typeExtent]
    split
    · rename_i hc
      intro d hd
      rw [List.take_succ_cons, List.mem_cons] at hd
      rcases hd with rfl | hd
      · simp only [Bool.or_eq_true, Bool.and_eq_true, beq_iff_eq] at hc
        exact hc.imp id And.left
      · exact ih d hd
    · exact fun d hd => absurd hd (by simp)

theorem opening_of_isTypeChar {c : Char} (hc : isTypeChar c = true) (cs : Text) :
    opening c cs = (.typeName, typeExtent cs) := by
  have hblank : isBlank c = false := Bool.eq_false_iff.mpr fun h =>
    Bool.false_ne_true ((not_isTypeChar_of_separates (.inl h)).1.symm.trans hc)
  have hcombinator : isCombinator c = false := Bool.eq_false_iff.mpr fun h =>
    Bool.false_ne_true ((not_isTypeChar_of_separates (.inr h)).1.symm.trans hc)
  have hsymbol : ∀ d ∈ "*.#:[".toList, c ≠ d := by
    rintro d hd rfl
    exact Bool.false_ne_true (((by decide : ∀ c ∈ "*.#:[".toList, isTypeChar c = false) c hd).symm.trans hc)
  unfold opening
  simp [hblank, hcombinator, hc, hsymbol]

theorem opening_point (cs : Text) : opening '.' cs = (.className, (cs.takeWhile isNameChar).length) := by
  unfold opening
  iterate 3 rw [if_neg (by decide)]
  rw [if_pos (by decide)]

theorem typeExtent_append_of_all {s t : Text} (h : ∀ c ∈ s, isTypeChar c = true) :
    typeExtent (s ++ t) = s.length + typeExtent t := by
  induction s with
  | nil => simp
  | cons c cs ih =>
    rw [List.cons_append, typeExtent, h c List.mem_cons_self, Bool.true_or, if_pos rfl,
      ih fun d hd => h d (List.mem_cons_of_mem _ hd), List.length_cons]
    omega

/-- A type name put in front of a compound takes in whole segments of it. -/
theorem exists_typeExtent_eq {A : List Segment} (h : Scanned A z) (hz : Separated z) :
    ∃ B C, A = B ++ C ∧ typeExtent (textOf A ++ z) = (textOf B).length := by
  induction A with
  | nil => exact ⟨[], [], rfl, (hz.typeExtent_append (a := [])).trans rfl⟩
  | cons g A ih =>
    obtain ⟨⟨c, cs, htext, hopening⟩, hA⟩ := scanned_cons.mp h
    rw [textOf_cons, htext, List.append_assoc, List.cons_append, typeExtent]
    by_cases htype : isTypeChar c = true
    · refine ⟨[g], A, rfl, ?_⟩
      rw [opening_of_isTypeChar htype, Prod.mk.injEq] at hopening
      rw [htype, Bool.true_or, if_pos rfl, hopening.2, textOf_cons, textOf_nil, List.append_nil, htext, List.length_cons]
    · by_cases hpoint : (c == '.' && startsWithDigit (cs ++ (textOf A ++ z))) = true
      · obtain ⟨B, C, rfl, hB⟩ := ih hA
        refine ⟨g :: B, C, rfl, ?_⟩
        obtain rfl : c = '.' := beq_iff_eq.mp (Bool.and_eq_true _ _ ▸ hpoint).1
        rw [opening_point, Prod.mk.injEq] at hopening
        have hcs : ∀ d ∈ cs, isTypeChar d = true := by
          have htake : (cs ++ (textOf (B ++ C) ++ z)).takeWhile isNameChar = cs := by
            rw [← take_length_takeWhile, hopening.2, List.take_left]
          intro d hd
          rw [← htake] at hd
          rw [isTypeChar, List.all_eq_true.mp List.all_takeWhile d hd, Bool.true_or]
        rw [hpoint, Bool.or_true, if_pos rfl, typeExtent_append_of_all hcs, hB, textOf_cons, htext]
        simp +arith
      · refine ⟨[], g :: A, rfl, ?_⟩
        rw [Bool.eq_false_iff.mpr htype, Bool.eq_false_iff.mpr hpoint]
        rfl

/-- The text of a compound behind a name made of type characters is scanned as a type name and whole segments. -/
theorem exists_scanned_typeName {name : Text} {A : List Segment} (hne : name ≠ []) (hname : ∀ c ∈ name, isTypeChar c = true)
    (h : Scanned A z) (hz : Separated z) :
    ∃ B C, A = B ++ C ∧ Scanned (⟨.typeName, name ++ textOf B⟩ :: C) z ∧ isTypeText (textOf B) := by
  obtain ⟨B, C, rfl, hextent⟩ := exists_typeExtent_eq h hz
  obtain ⟨c, cs, rfl⟩ := List.exists_cons_of_ne_nil hne
  refine ⟨B, C, rfl, scanned_cons.mpr ⟨⟨c, cs ++ textOf B, rfl, ?_⟩, (scanned_append.mp h).2⟩, ?_⟩
  · rw [List.append_assoc, opening_of_isTypeChar (hname c List.mem_cons_self),
      typeExtent_append_of_all fun d hd => hname d (List.mem_cons_of_mem _ hd), ← List.append_assoc,
      ← textOf_append, hextent, List.length_append]
  · have := isTypeText_take_typeExtent (textOf (B ++ C) ++ z)
    rwa [hextent, textOf_append, List.append_assoc, List.take_left] at this

end Segment

end UiToolkit
