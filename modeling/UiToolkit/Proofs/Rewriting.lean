import UiToolkit.Proofs.Segments

/-!
# Rewriting selectors

A rewritten selector is left alone when it is rewritten again. The names of UI elements stand for no tag but themselves, whatever follows them, and in front of a compound they take in whole segments. So the segments of what was written are those that were read, but for the names of elements, the root and single blanks.
-/

namespace UiToolkit

open Text

namespace Control

theorem mem_name {control : Control} {c : Char} (h : c ∈ control.name) : Segment.isTypeChar c = true ∧ c.toNat < 128 := by
  have hall : ∀ c ∈ control.name, Segment.isTypeChar c = true ∧ c.toNat < 128 := by cases control <;> decide
  exact hall c h

theorem name_ne_nil (control : Control) : control.name ≠ [] := by
  cases control <;> decide

theorem prefix_lower_name_append (control : Control) (s : Text) :
    control.name.map Char.toLower <+: lower (control.name ++ s) := by
  obtain ⟨afterCased, h⟩ := exists_lowerAfter_append (s := control.name) (fun c hc => (mem_name hc).2) false s
  exact ⟨_, h.symm⟩

/-- The name of an element begins no tag of the table but its own. -/
theorem eq_of_prefix_lower_name {control : Control} {selector : Text} (hselector : selector ∈ Entries.names bySelector)
    (h : control.name.map Char.toLower <+: selector) : selector = control.name.map Char.toLower := by
  have hall : ∀ selector ∈ Entries.names bySelector,
      control.name.map Char.toLower <+: selector → selector = control.name.map Char.toLower := by
    cases control <;> decide
  exact hall selector hselector h

end Control

namespace Segment

theorem isBlank_of_isTypeText {s : Text} (h : isTypeText s) : ∀ c ∈ s, isBlank c = false := by
  intro c hc
  refine Bool.eq_false_iff.mpr fun hblank => ?_
  obtain ⟨htype, hpoint, -⟩ := not_isTypeChar_of_separates (.inl hblank)
  rcases h c hc with h | h
  · exact Bool.false_ne_true (htype.symm.trans h)
  · exact hpoint h

theorem isTypeText_name_append (control : Control) {s : Text} (hs : isTypeText s) : isTypeText (control.name ++ s) := by
  intro c hc
  rcases List.mem_append.mp hc with hc | hc
  · exact .inl (Control.mem_name hc).1
  · exact hs c hc

theorem elementName_name (control : Control) : elementName control.name = control.name := by
  cases control <;> decide

theorem elementName_append (control : Control) {s : Text} (hs : isTypeText s) :
    elementName (control.name ++ s) = control.name ++ s := by
  have htrim : trim (control.name ++ s) = control.name ++ s :=
    trim_eq_self_of_all (isBlank_of_isTypeText (isTypeText_name_append control hs))
  rw [elementName, Control.ofSelector?, htrim]
  cases hget : Control.bySelector.get? (lower (control.name ++ s)) with
  | none => rfl
  | some found =>
    obtain ⟨before, after, hsplit, -⟩ := List.lookup_eq_some_iff.mp hget
    have hmem : lower (control.name ++ s) ∈ Entries.names Control.bySelector := by
      rw [Entries.names, hsplit]
      simp
    have hlower := Control.eq_of_prefix_lower_name hmem (Control.prefix_lower_name_append control s)
    obtain ⟨afterCased, happend⟩ :=
      exists_lowerAfter_append (s := control.name) (fun c hc => (Control.mem_name hc).2) false s
    have hnil : lowerAfter afterCased s = [] := by
      rw [lower, happend] at hlower
      exact List.append_right_eq_self.mp hlower
    rw [← hget, lowerAfter_eq_nil hnil, List.append_nil]
    have := elementName_name control
    rwa [elementName, Control.ofSelector?, trim_eq_self_of_all fun c hc =>
      isBlank_of_isTypeText (fun d hd => .inl (Control.mem_name hd).1) c hc] at this

theorem isRootTag_append (control : Control) (s : Text) : isRootTag (control.name ++ s) = false := by
  have hname : ∀ tag ∈ ["body".toList, "html".toList], ¬control.name.map Char.toLower <+: tag := by
    cases control <;> decide
  have hprefix := Control.prefix_lower_name_append control s
  rw [isRootTag, Bool.or_eq_false_iff, beq_eq_false_iff_ne, beq_eq_false_iff_ne]
  exact ⟨fun h => hname _ (by simp) (h ▸ hprefix), fun h => hname _ (by simp) (h ▸ hprefix)⟩

theorem typedInput?_append (control : Control) (s : Text) (next : Segment) : typedInput? (control.name ++ s) next = none := by
  have hname : ¬control.name.map Char.toLower <+: "input".toList := by
    cases control <;> decide
  have hne : lower (control.name ++ s) ≠ "input".toList := fun h =>
    hname (h ▸ Control.prefix_lower_name_append control s)
  rw [typedInput?, beq_false_of_ne hne]
  rfl

theorem rewriteCompound_name_append (control : Control) {s : Text} (hs : isTypeText s) (A : List Segment) :
    rewriteCompound (⟨.typeName, control.name ++ s⟩ :: A) = control.name ++ s ++ textOf A := by
  cases A with
  | nil =>
    rw [rewriteCompound, isRootTag_append, if_neg Bool.false_ne_true, elementName_append control hs, textOf_nil,
      List.append_nil]
  | cons g A => rw [rewriteCompound, typedInput?_append, elementName_append control hs]

/-! ### One compound -/

theorem elementName_cases (tag : Text) : elementName tag = tag ∨ ∃ control : Control, elementName tag = control.name := by
  rw [elementName]
  cases Control.ofSelector? tag with
  | none => exact .inl rfl
  | some control => exact .inr ⟨control, rfl⟩

/-- A rewritten compound is the compound itself, the root, or the name of an element in place of its first segments. -/
theorem rewriteCompound_cases {C : List Segment} (hC : ∀ g ∈ C, g.isSeparator = false) :
    rewriteCompound C = textOf C ∨ rewriteCompound C = ":root".toList ∨
      ∃ (control : Control) (A B : List Segment), C = A ++ B ∧ rewriteCompound C = control.name ++ textOf B := by
  fun_cases rewriteCompound C with
  | case1 => exact .inl rfl
  | case2 text => exact absurd (hC _ List.mem_cons_self) (by simp [isSeparator])
  | case3 tag => exact .inr (.inl rfl)
  | case4 tag =>
    rcases elementName_cases tag with h | ⟨control, h⟩
    · exact .inl (by simp [h])
    · exact .inr (.inr ⟨control, [⟨.typeName, tag⟩], [], rfl, by simp [h]⟩)
  | case5 tag next rest control => exact .inr (.inr ⟨control, [⟨.typeName, tag⟩, next], rest, rfl, rfl⟩)
  | case6 tag next rest =>
    rcases elementName_cases tag with h | ⟨control, h⟩
    · exact .inl (by simp [h])
    · exact .inr (.inr ⟨control, [⟨.typeName, tag⟩], next :: rest, rfl, by rw [h]⟩)
  | case7 => exact .inl rfl

/-- What is written in place of a segment that is not kept: the root, a single blank, or a name that has taken in segments of the text. -/
def IsWritten (source : Text) (g : Segment) : Prop :=
  g = ⟨.pseudoClass, ":root"⟩ ∨ g = ⟨.whitespace, [' ']⟩ ∨
    ∃ (control : Control) (s : Text), isTypeText s ∧ s <:+: source ∧ g = ⟨.typeName, control.name ++ s⟩

theorem IsWritten.mono {source source' : Text} {g : Segment} (h : IsWritten source g) (hsource : source <:+: source') :
    IsWritten source' g := by
  refine h.imp id (Or.imp id ?_)
  rintro ⟨control, s, hs, hinfix, rfl⟩
  exact ⟨control, s, hs, hinfix.trans hsource, rfl⟩

variable {b z : Text}

theorem scanned_root (hz : Separated z) : Scanned [⟨.pseudoClass, ":root"⟩] z := by
  refine scanned_cons.mpr ⟨⟨':', "root".toList, rfl, ?_⟩, scanned_nil z⟩
  rw [textOf_nil, List.nil_append, opening_colon (by simp), hz.pseudoExtent_append_of_all (by decide)]

theorem exists_scanned_rewriteCompound {C : List Segment} (hscanned : Scanned C b) (hne : C ≠ [])
    (hC : ∀ g ∈ C, g.isSeparator = false) (hb : Separated b) (hz : Separated z) (hnil : b = [] → z = []) :
    ∃ D, Scanned D z ∧ textOf D = rewriteCompound C ∧ rewriteCompound D = rewriteCompound C ∧ D ≠ [] ∧
      (∀ g ∈ D, g.isSeparator = false) ∧ ∀ g ∈ D, g ∈ C ∨ IsWritten (textOf C) g := by
  have hcongr : ∀ A B, C = A ++ B → Scanned B z := by
    rintro A B rfl
    refine (scanned_append.mp hscanned).2.congr hb hz hnil fun g hg => ?_
    have := hC g (List.mem_append_right A hg)
    rw [isSeparator, Bool.or_eq_false_iff] at this
    exact beq_eq_false_iff_ne.mp this.2
  rcases rewriteCompound_cases hC with h | h | ⟨control, A, B, rfl, h⟩
  · exact ⟨C, hcongr [] C rfl, h.symm, rfl, hne, hC, fun g hg => .inl hg⟩
  · rw [h]
    refine ⟨[⟨.pseudoClass, ":root"⟩], scanned_root hz, rfl, rfl, List.cons_ne_nil _ _, fun g hg => ?_, fun g hg => ?_⟩
    · rw [List.mem_singleton.mp hg]
      rfl
    · exact .inr (.inl (List.mem_singleton.mp hg))
  · obtain ⟨B, D, rfl, hD, htype⟩ :=
      exists_scanned_typeName control.name_ne_nil (fun c hc => (Control.mem_name hc).1) (hcongr A B rfl) hz
    rw [h]
    refine ⟨_, hD, by simp, by rw [rewriteCompound_name_append control htype]; simp, List.cons_ne_nil _ _,
      fun g hg => ?_, fun g hg => ?_⟩
    · rcases List.mem_cons.mp hg with rfl | hg
      · rfl
      · exact hC g (by simp [hg])
    · rcases List.mem_cons.mp hg with rfl | hg
      · exact .inr (.inr (.inr ⟨control, textOf B, htype, ⟨textOf A, textOf D, by simp⟩, rfl⟩))
      · exact .inl (by simp [hg])

/-! ### All compounds -/

/-- The text of the compounds in USS. -/
def rewriting (A : List Segment) : Text := (compounds A).flatMap rewriteCompound

theorem compounds_cons {g : Segment} (hg : g.isSeparator = true) (A : List Segment) : compounds (g :: A) = [g] :: compounds A := by
  rw [compounds]
  split
  · rename_i h hs rest heq
    rw [hg, Bool.true_or, if_pos rfl, heq]
  · rfl

theorem compounds_append {C A : List Segment} (hne : C ≠ []) (hC : ∀ g ∈ C, g.isSeparator = false)
    (hA : ∀ g ∈ A.head?, g.isSeparator = true) : compounds (C ++ A) = C :: compounds A := by
  induction C with
  | nil => exact absurd rfl hne
  | cons g C ih =>
    rw [List.cons_append, compounds]
    cases C with
    | nil =>
      rw [List.nil_append]
      cases A with
      | nil => rfl
      | cons h A =>
        rw [compounds_cons (hA h rfl)]
        simp only [hA h rfl, Bool.or_true, if_true]
    | cons h C =>
      rw [ih (List.cons_ne_nil h C) fun k hk => hC k (List.mem_cons_of_mem g hk)]
      simp only [hC g List.mem_cons_self, hC h (by simp), Bool.or_false, Bool.false_eq_true, if_false]

theorem rewriting_cons {g : Segment} (hg : g.isSeparator = true) (A : List Segment) :
    rewriting (g :: A) = rewriteCompound [g] ++ rewriting A := by
  rw [rewriting, compounds_cons hg, List.flatMap_cons]
  rfl

theorem rewriting_append {C A : List Segment} (hne : C ≠ []) (hC : ∀ g ∈ C, g.isSeparator = false)
    (hA : ∀ g ∈ A.head?, g.isSeparator = true) : rewriting (C ++ A) = rewriteCompound C ++ rewriting A := by
  rw [rewriting, compounds_append hne hC hA, List.flatMap_cons]
  rfl

/-- Segments are nothing, begin with a separator, or begin with a compound. -/
theorem compound_induction {motive : List Segment → Prop} (nil : motive [])
    (separator : ∀ g A, g.isSeparator = true → motive A → motive (g :: A))
    (compound : ∀ C A, C ≠ [] → (∀ g ∈ C, g.isSeparator = false) → (∀ g ∈ A.head?, g.isSeparator = true) →
      motive A → motive (C ++ A)) (A : List Segment) : motive A := by
  induction hlength : A.length using Nat.strongRecOn generalizing A with
  | ind n ih =>
    cases A with
    | nil => exact nil
    | cons g A =>
      by_cases hg : g.isSeparator = true
      · exact separator g A hg (ih A.length (by simp [← hlength]) A rfl)
      · have hg : (!g.isSeparator) = true := by simpa using hg
        have hsplit := List.takeWhile_append_dropWhile (p := fun k : Segment => !k.isSeparator) (l := g :: A)
        have hlen := congrArg List.length hsplit
        rw [← hsplit]
        refine compound _ _ (by simp [hg]) (fun k hk => ?_) (fun k hk => ?_) (ih _ ?_ _ rfl)
        · simpa using List.mem_takeWhile_imp hk
        · have := List.head?_dropWhile_not (fun k : Segment => !k.isSeparator) (g :: A)
          rw [Option.mem_def.mp hk] at this
          simpa using this
        · rw [List.length_append, List.takeWhile_cons, hg] at hlen
          simp only [if_true, List.length_cons] at hlen
          rw [← hlength, List.length_cons]
          omega

/-- What the first character of a text does to the compound in front of it. -/
def firstMarks (s : Text) : Option (Bool × Bool) := s.head?.map fun c => (isBlank c, isCombinator c)

theorem isCombinator_of_isBlank {c : Char} (hc : isBlank c = true) : isCombinator c = false := by
  simpa using forall_blank (p := fun c => !isCombinator c) (by decide) hc

theorem Separated.of_firstMarks (hb : Separated b) (h : firstMarks z = firstMarks b) : Separated z := by
  intro c hc
  rw [firstMarks, Option.mem_def.mp hc, firstMarks] at h
  obtain ⟨d, hd, heq⟩ := Option.map_eq_some_iff.mp h.symm
  rw [Prod.mk.injEq] at heq
  rw [← heq.1, ← heq.2]
  exact hb d hd

theorem firstMarks_append {s : Text} {marks : Bool × Bool} (h : firstMarks s = some marks) (t : Text) :
    firstMarks (s ++ t) = some marks := by
  cases s with
  | nil => cases h
  | cons c s => exact h

theorem firstMarks_textOf {C : List Segment} (h : Scanned C b) (hne : C ≠ []) (hC : ∀ g ∈ C, g.isSeparator = false) :
    firstMarks (textOf C) = some (false, false) := by
  cases C with
  | nil => exact absurd rfl hne
  | cons g C =>
    obtain ⟨⟨c, cs, htext, hopening⟩, -⟩ := scanned_cons.mp h
    have hg := hC g List.mem_cons_self
    rw [isSeparator, Bool.or_eq_false_iff, beq_eq_false_iff_ne, beq_eq_false_iff_ne] at hg
    obtain ⟨hblank, hcombinator⟩ := not_separates_of_opening hopening ⟨hg.2, hg.1⟩
    rw [textOf_cons, htext, List.cons_append, firstMarks, List.head?_cons, Option.map_some, hblank, hcombinator]

theorem firstMarks_name (control : Control) : firstMarks control.name = some (false, false) := by
  cases control <;> decide

theorem firstMarks_rewriteCompound {C : List Segment} (h : Scanned C b) (hne : C ≠ [])
    (hC : ∀ g ∈ C, g.isSeparator = false) : firstMarks (rewriteCompound C) = some (false, false) := by
  rcases rewriteCompound_cases hC with heq | heq | ⟨control, A, B, -, heq⟩
  · rw [heq, firstMarks_textOf h hne hC]
  · rw [heq]
    decide
  · rw [heq]
    exact firstMarks_append (firstMarks_name control) _

/-- A separator is a combinator, or all the blanks up to a character that is none. -/
theorem separator_cases {g : Segment} {A : List Segment} (h : Scanned (g :: A) b) (hg : g.isSeparator = true) :
    (∃ c, isCombinator c = true ∧ g = ⟨.combinator, [c]⟩) ∨
      ∃ c cs, isBlank c = true ∧ g = ⟨.whitespace, c :: cs⟩ ∧ (∀ d ∈ cs, isBlank d = true) ∧
        ∀ d ∈ (textOf A ++ b).head?, isBlank d = false := by
  obtain ⟨⟨c, cs, htext, hopening⟩, -⟩ := scanned_cons.mp h
  obtain ⟨kind, text⟩ := g
  obtain rfl : text = c :: cs := htext
  unfold opening at hopening
  split at hopening
  · rename_i hblank
    obtain ⟨rfl, hlength⟩ := Prod.mk.inj hopening
    have htake : (cs ++ (textOf A ++ b)).takeWhile isBlank = cs := by
      rw [← take_length_takeWhile, hlength, List.take_left]
    have hall : ∀ d ∈ cs, isBlank d = true := fun d hd => List.mem_takeWhile_imp (htake ▸ hd)
    refine .inr ⟨c, cs, hblank, rfl, hall, fun d hd => ?_⟩
    rw [List.takeWhile_append_of_pos hall, List.append_right_eq_self] at htake
    cases hrest : textOf A ++ b with
    | nil => rw [hrest] at hd; cases hd
    | cons e es =>
      rw [hrest] at hd htake
      rw [← Option.some.inj hd]
      exact Bool.eq_false_iff.mpr fun he => by simp [he] at htake
  · split at hopening
    · rename_i hcombinator
      obtain ⟨rfl, hlength⟩ := Prod.mk.inj hopening
      exact .inl ⟨c, hcombinator, by rw [List.eq_nil_of_length_eq_zero hlength.symm]⟩
    · repeat' split at hopening
      all_goals
        obtain ⟨rfl, -⟩ := Prod.mk.inj hopening
        exact absurd hg (by simp [isSeparator])

theorem rewriteCompound_combinator (text : Text) : rewriteCompound [⟨.combinator, text⟩] = text :=
  List.append_nil text

theorem firstMarks_rewriting {A : List Segment} (h : Scanned A b) : firstMarks (rewriting A) = firstMarks (textOf A) := by
  induction A using compound_induction with
  | nil => rfl
  | separator g A hg ih =>
    rw [rewriting_cons hg, textOf_cons]
    rcases separator_cases h hg with ⟨c, -, rfl⟩ | ⟨c, cs, hc, rfl, -⟩
    · rw [rewriteCompound_combinator]
      rfl
    · rw [rewriteCompound, firstMarks, firstMarks]
      simp only [List.cons_append, List.head?_cons, Option.map_some, hc, isCombinator_of_isBlank hc]
      decide
  | compound C A hne hC hA ih =>
    have hscanned := (scanned_append.mp h).1
    rw [rewriting_append hne hC hA, textOf_append, firstMarks_append (firstMarks_rewriteCompound hscanned hne hC),
      firstMarks_append (firstMarks_textOf hscanned hne hC)]

/-- No blank stands at the end. -/
def EndsPlain (s : Text) : Prop := ∀ c ∈ s.getLast?, isBlank c = false

theorem endsPlain_append {s t s' t' : Text} (hmarks : firstMarks t' = firstMarks t) (hs : EndsPlain s → EndsPlain s')
    (ht : EndsPlain t → EndsPlain t') (h : EndsPlain (s ++ t)) : EndsPlain (s' ++ t') := by
  cases t with
  | nil =>
    obtain rfl : t' = [] := by
      cases t' with
      | nil => rfl
      | cons c t' => cases hmarks
    rw [List.append_nil] at h ⊢
    exact hs h
  | cons d t =>
    have hne : t' ≠ [] := by
      rintro rfl
      cases hmarks
    have hlast := List.getLast?_eq_some_getLast hne
    have hlast' := List.getLast?_eq_some_getLast (List.cons_ne_nil d t)
    rw [EndsPlain, List.getLast?_append, hlast', Option.some_or] at h
    rw [EndsPlain, List.getLast?_append, hlast, Option.some_or, ← hlast]
    exact ht (by rwa [EndsPlain, hlast'])

theorem endsPlain_rewriteCompound {C : List Segment} (hC : ∀ g ∈ C, g.isSeparator = false) (h : EndsPlain (textOf C)) :
    EndsPlain (rewriteCompound C) := by
  rcases rewriteCompound_cases hC with heq | heq | ⟨control, A, B, rfl, heq⟩
  · rwa [heq]
  · rw [heq]
    intro c hc
    obtain rfl : 't' = c := Option.some.inj hc
    decide
  · rw [heq]
    rw [textOf_append] at h
    refine endsPlain_append rfl (fun _ c hc => ?_) id h
    exact isBlank_of_isTypeText (fun d hd => .inl (Control.mem_name hd).1) c (List.mem_of_getLast? hc)

theorem endsPlain_rewriting {A : List Segment} (h : Scanned A b) (hplain : EndsPlain (textOf A)) :
    EndsPlain (rewriting A) := by
  induction A using compound_induction with
  | nil => exact hplain
  | separator g A hg ih =>
    have hA := (scanned_cons.mp h).2
    rw [rewriting_cons hg]
    refine endsPlain_append (firstMarks_rewriting hA) (fun hlast => ?_) (ih hA) hplain
    rcases separator_cases h hg with ⟨c, -, rfl⟩ | ⟨c, cs, hc, rfl, hall, -⟩
    · rwa [rewriteCompound_combinator]
    · have hmem := List.getLast_mem (List.cons_ne_nil c cs)
      have hblank : isBlank ((c :: cs).getLast (List.cons_ne_nil c cs)) = true := by
        rcases List.mem_cons.mp hmem with heq | hmem
        · rwa [heq]
        · exact hall _ hmem
      exact absurd (hlast _ (List.getLast?_eq_some_getLast _)) (by rw [hblank]; decide)
  | compound C A hne hC hA ih =>
    obtain ⟨-, hscanned⟩ := scanned_append.mp h
    rw [rewriting_append hne hC hA]
    rw [textOf_append] at hplain
    exact endsPlain_append (firstMarks_rewriting hscanned) (endsPlain_rewriteCompound hC) (ih hscanned) hplain

theorem separated_textOf {A : List Segment} (h : Scanned A []) (hA : ∀ g ∈ A.head?, g.isSeparator = true) :
    Separated (textOf A) := by
  cases A with
  | nil => exact fun c hc => by cases hc
  | cons g A =>
    intro c hc
    rcases separator_cases h (hA g rfl) with ⟨d, hd, rfl⟩ | ⟨d, cs, hd, rfl, -⟩
    · exact .inr (Option.some.inj hc ▸ hd)
    · exact .inl (Option.some.inj hc ▸ hd)

theorem scanned_combinator {c : Char} (hc : isCombinator c = true) (A : List Segment) (h : Scanned A b) :
    Scanned (⟨.combinator, [c]⟩ :: A) b := by
  have hblank : isBlank c = false := Bool.eq_false_iff.mpr fun hblank =>
    Bool.false_ne_true ((isCombinator_of_isBlank hblank).symm.trans hc)
  refine scanned_cons.mpr ⟨⟨c, [], rfl, ?_⟩, h⟩
  unfold opening
  rw [hblank, if_neg Bool.false_ne_true, if_pos hc]
  rfl

theorem opening_blanks {c : Char} {cs t : Text} (hc : isBlank c = true) (hcs : ∀ d ∈ cs, isBlank d = true)
    (ht : ∀ d ∈ t.head?, isBlank d = false) : opening c (cs ++ t) = (.whitespace, cs.length) := by
  have hstop : t.takeWhile isBlank = [] := by
    cases t with
    | nil => rfl
    | cons d ds => rw [List.takeWhile_cons, ht d rfl, if_neg Bool.false_ne_true]
  unfold opening
  rw [if_pos hc, List.takeWhile_append_of_pos hcs, hstop, List.append_nil]

theorem scanned_blank {A : List Segment} (hA : ∀ c ∈ (textOf A ++ b).head?, isBlank c = false) (h : Scanned A b) :
    Scanned (⟨.whitespace, [' ']⟩ :: A) b :=
  scanned_cons.mpr ⟨⟨' ', [], rfl, opening_blanks (by decide) (by simp) hA⟩, h⟩

/-- What is written for a selector is scanned as segments that are written as they stand. -/
theorem exists_scanned_rewriting {A : List Segment} (h : Scanned A []) :
    ∃ B, Scanned B [] ∧ textOf B = rewriting A ∧ rewriting B = rewriting A ∧
      B.head?.map isSeparator = A.head?.map isSeparator ∧ ∀ g ∈ B, g ∈ A ∨ IsWritten (textOf A) g := by
  induction A using compound_induction with
  | nil => exact ⟨[], h, rfl, rfl, rfl, fun g hg => .inl hg⟩
  | separator g A hg ih =>
    have hscannedA := (scanned_cons.mp h).2
    obtain ⟨B, hscanned, htext, hrewriting, -, hmem⟩ := ih hscannedA
    have hmarks : firstMarks (textOf B) = firstMarks (textOf A) := by
      rw [htext, firstMarks_rewriting hscannedA]
    have hrest : ∀ k ∈ B, k ∈ g :: A ∨ IsWritten (textOf (g :: A)) k := fun k hk =>
      (hmem k hk).imp (List.mem_cons_of_mem g) fun hk => hk.mono (List.suffix_append g.text _).isInfix
    rw [rewriting_cons hg]
    rcases separator_cases h hg with ⟨c, hc, rfl⟩ | ⟨c, cs, hc, rfl, -, hplain⟩
    · refine ⟨⟨.combinator, [c]⟩ :: B, scanned_combinator hc B hscanned, ?_, ?_, rfl, ?_⟩
      · rw [textOf_cons, htext, rewriteCompound_combinator]
      · rw [rewriting_cons hg, hrewriting]
      · exact List.forall_mem_cons.mpr ⟨.inl List.mem_cons_self, hrest⟩
    · refine ⟨⟨.whitespace, [' ']⟩ :: B, scanned_blank (fun d hd => ?_) hscanned, ?_, ?_, rfl, ?_⟩
      · rw [List.append_nil] at hd hplain
        rw [firstMarks, Option.mem_def.mp hd] at hmarks
        obtain ⟨e, he, heq⟩ := Option.map_eq_some_iff.mp hmarks.symm
        rw [← (Prod.mk.inj heq).1, hplain e he]
      · rw [textOf_cons, htext]
        rfl
      · rw [rewriting_cons rfl, hrewriting]
        rfl
      · exact List.forall_mem_cons.mpr ⟨.inr (.inr (.inl rfl)), hrest⟩
  | compound C A hne hC hA ih =>
    obtain ⟨hscannedC, hscannedA⟩ := scanned_append.mp h
    obtain ⟨B, hscanned, htext, hrewriting, hhead, hmem⟩ := ih hscannedA
    rw [List.append_nil] at hscannedC
    have hmarks : firstMarks (textOf B) = firstMarks (textOf A) := by
      rw [htext, firstMarks_rewriting hscannedA]
    have hnil : textOf A = [] → textOf B = [] := by
      intro hnil
      rw [hnil] at hmarks
      cases hB : textOf B with
      | nil => rfl
      | cons c cs =>
        rw [hB] at hmarks
        cases hmarks
    have hseparated := separated_textOf hscannedA hA
    obtain ⟨D, hscannedD, htextD, hrewritingD, hneD, hD, hmemD⟩ :=
      exists_scanned_rewriteCompound hscannedC hne hC hseparated (hseparated.of_firstMarks hmarks) hnil
    have hB : ∀ g ∈ B.head?, g.isSeparator = true := by
      intro g hg
      rw [Option.mem_def.mp hg] at hhead
      obtain ⟨k, hk, heq⟩ := Option.map_eq_some_iff.mp hhead.symm
      rw [← heq, hA k hk]
    refine ⟨D ++ B, scanned_append.mpr ⟨by rwa [List.append_nil], hscanned⟩, ?_, ?_, ?_, ?_⟩
    · rw [textOf_append, htextD, htext, rewriting_append hne hC hA]
    · rw [rewriting_append hneD hD hB, rewriting_append hne hC hA, hrewritingD, hrewriting]
    · obtain ⟨c, C, rfl⟩ := List.exists_cons_of_ne_nil hne
      obtain ⟨d, D, rfl⟩ := List.exists_cons_of_ne_nil hneD
      simp [hC c List.mem_cons_self, hD d List.mem_cons_self]
    · intro g hg
      rw [textOf_append]
      rcases List.mem_append.mp hg with hg | hg
      · exact (hmemD g hg).imp (List.mem_append_left A) fun hg => hg.mono (List.prefix_append _ _).isInfix
      · exact (hmem g hg).imp (List.mem_append_right C) fun hg => hg.mono (List.suffix_append _ _).isInfix

end Segment

end UiToolkit
