import UiToolkit.Proofs.Rewriting

/-!
# The denylist and rewritten selectors

Every fragment on the bundled denylist begins with a symbol that is no part of a name, and goes on with characters that close no bracket. So where one occurs in an accepted selector, it occurs inside one segment, and the segments that are written anew hold none: nothing on the denylist comes in by rewriting.
-/

namespace UiToolkit

namespace Text

theorem lowerForms_append (s t : Text) : lowerForms (s ++ t) = lowerForms s ++ lowerForms t := List.flatMap_append

theorem lowerForms_cons (c : Char) (s : Text) : lowerForms (c :: s) = lowerForm c ++ lowerForms s := rfl

theorem lowerForms_isInfix {s t : Text} (h : s <:+: t) : lowerForms s <:+: lowerForms t := by
  obtain ⟨a, b, rfl⟩ := h
  rw [lowerForms_append, lowerForms_append]
  exact List.infix_append _ _ _

theorem lowerForm_of_isBlank {c : Char} (hc : isBlank c = true) : lowerForm c = [c] := by
  simpa using forall_blank (p := fun c => lowerForm c == [c]) (by decide) hc

theorem prefix_of_prefix_append {u s t : Text} (h : u <+: s ++ t) (ht : ∀ c ∈ t.head?, c ∉ u) : u <+: s := by
  rcases List.prefix_or_prefix_of_prefix h (List.prefix_append s t) with hprefix | hprefix
  · exact hprefix
  · obtain ⟨rest, rfl⟩ := hprefix
    rw [List.prefix_append_right_inj] at h
    cases rest with
    | nil => exact (List.append_nil s).symm ▸ List.prefix_refl s
    | cons c rest =>
      obtain ⟨tail, rfl⟩ := h
      exact absurd (List.mem_append_right s List.mem_cons_self) (ht c rfl)

end Text

namespace Denylist

open Text Segment

/-- The symbols that fragments begin with. -/
def symbols : Text := "+~|@:["

/-- How the fragments of the bundled denylist are made. -/
structure IsFragment (symbol : Char) (rest : Text) : Prop where
  mem_symbols : symbol ∈ symbols
  ascii : ∀ c ∈ rest, c.toNat < 128
  noBlank : ∀ c ∈ rest, isBlank c = false
  noCloser : ')' ∉ rest ∧ ']' ∉ rest
  single : symbol ∈ "+~|".toList → rest = []
  notSupported : ∀ name ∈ Pseudo.supportedClasses, ¬(symbol :: rest <+: name) ∧ ¬(name <+: symbol :: rest)

instance (symbol : Char) (rest : Text) : Decidable (IsFragment symbol rest) :=
  decidable_of_iff (symbol ∈ symbols ∧ (∀ c ∈ rest, c.toNat < 128) ∧ (∀ c ∈ rest, isBlank c = false) ∧
      (')' ∉ rest ∧ ']' ∉ rest) ∧ (symbol ∈ "+~|".toList → rest = []) ∧
      ∀ name ∈ Pseudo.supportedClasses, ¬(symbol :: rest <+: name) ∧ ¬(name <+: symbol :: rest))
    ⟨fun ⟨h₁, h₂, h₃, h₄, h₅, h₆⟩ => ⟨h₁, h₂, h₃, h₄, h₅, h₆⟩, fun ⟨h₁, h₂, h₃, h₄, h₅, h₆⟩ => ⟨h₁, h₂, h₃, h₄, h₅, h₆⟩⟩

theorem isFragment_of_mem {fragment : Text} (h : fragment ∈ Policy.bundled.denylist) :
    ∃ symbol rest, fragment = symbol :: rest ∧ IsFragment symbol rest := by
  have hall : ∀ fragment ∈ Policy.bundled.denylist,
      (fragment.head?.any fun symbol => decide (IsFragment symbol fragment.tail)) = true := by
    decide
  obtain ⟨symbol, hsymbol, hfragment⟩ := Option.any_eq_true _ _ |>.mp (hall fragment h)
  cases fragment with
  | nil => cases hsymbol
  | cons c rest => exact ⟨c, rest, rfl, Option.some.inj hsymbol ▸ of_decide_eq_true hfragment⟩

theorem eq_of_mem_lowerForm {symbol c : Char} (hsymbol : symbol ∈ symbols) (h : symbol ∈ lowerForm c) :
    c = symbol ∧ lowerForm c = [symbol] := by
  have hsmall : symbol.toNat < 128 ∧ symbol ≠ 'i' ∧ symbol ≠ 'k' := by
    have hall : ∀ d ∈ symbols, d.toNat < 128 ∧ d ≠ 'i' ∧ d ≠ 'k' := by decide
    exact hall symbol hsymbol
  rcases toLower_of_mem_lowerForm h hsmall.1 with ⟨hc, hlower⟩ | h | h
  · have hall := forall_ascii (p := fun d => !symbols.contains d.toLower || (lowerForm d == [d.toLower] && d.toLower == d))
      (by decide) hc
    rw [hlower, List.contains_iff_mem.mpr hsymbol] at hall
    simp only [Bool.not_true, Bool.false_or, Bool.and_eq_true, beq_iff_eq] at hall
    exact ⟨hall.2.symm, hall.1⟩
  · exact absurd h hsmall.2.1
  · exact absurd h hsmall.2.2

theorem lowerForm_symbol {symbol : Char} (hsymbol : symbol ∈ symbols) : lowerForm symbol = [symbol] := by
  have hall : ∀ d ∈ symbols, lowerForm d = [d] := by decide
  exact hall symbol hsymbol

variable {symbol : Char} {rest : Text}

theorem exists_of_infix_lowerForms (hsymbol : symbol ∈ symbols) {s : Text} (h : symbol :: rest <:+: lowerForms s) :
    ∃ a v, s = a ++ symbol :: v ∧ rest <+: lowerForms v := by
  induction s with
  | nil => exact absurd (List.infix_nil.mp h) (List.cons_ne_nil _ _)
  | cons c s ih =>
    have hlater : symbol :: rest <:+: lowerForms s → ∃ a v, c :: s = a ++ symbol :: v ∧ rest <+: lowerForms v := by
      intro hlater
      obtain ⟨a, v, rfl, hv⟩ := ih hlater
      exact ⟨c :: a, v, rfl, hv⟩
    rw [lowerForms_cons] at h
    by_cases hc : symbol ∈ lowerForm c
    · obtain ⟨rfl, hform⟩ := eq_of_mem_lowerForm hsymbol hc
      rw [hform] at h
      rcases List.infix_cons_iff.mp h with hprefix | hfound
      · exact ⟨[], s, rfl, (List.prefix_cons_inj c).mp hprefix⟩
      · exact hlater hfound
    · rcases List.infix_append_iff.mp h with hfound | hfound | ⟨start, ending, hsplit, hstart, hending⟩
      · exact absurd (hfound.subset List.mem_cons_self) hc
      · exact hlater hfound
      · cases start with
        | nil => exact hlater (hsplit ▸ hending.isInfix)
        | cons d start =>
          rw [List.cons_append, List.cons.injEq] at hsplit
          exact absurd (hstart.subset (hsplit.1 ▸ List.mem_cons_self)) hc

theorem isInfix_lowerForms (hsymbol : symbol ∈ symbols) {v : Text} (h : rest <+: lowerForms v) (a : Text) :
    symbol :: rest <:+: lowerForms (a ++ symbol :: v) := by
  rw [lowerForms_append, lowerForms_cons, lowerForm_symbol hsymbol]
  exact List.infix_append_of_infix_right ((List.prefix_cons_inj symbol).mpr h).isInfix

theorem IsFragment.forall_ascii (hfragment : IsFragment symbol rest) : ∀ c ∈ symbol :: rest, c.toNat < 128 := by
  have hall : ∀ d ∈ symbols, d.toNat < 128 := by decide
  exact List.forall_mem_cons.mpr ⟨hall symbol hfragment.mem_symbols, hfragment.ascii⟩

/-- A fragment occurs in a word of a text exactly when it occurs in the text. -/
theorem exists_mem_words_iff (hfragment : IsFragment symbol rest) {s : Text} :
    (∃ word ∈ words s, symbol :: rest <:+: lower word) ↔ symbol :: rest <:+: lowerForms s := by
  have hascii := hfragment.forall_ascii
  constructor
  · rintro ⟨word, hword, hfound⟩
    rw [lower, infix_lowerAfter_iff hascii] at hfound
    exact hfound.trans (lowerForms_isInfix (infix_of_mem_cut (List.mem_filter.mp hword |>.1)))
  · intro hfound
    obtain ⟨a, v, rfl, hprefix⟩ := exists_of_infix_lowerForms hfragment.mem_symbols hfound
    have hsplit : v = v.takeWhile (!isBlank ·) ++ v.dropWhile (!isBlank ·) := (List.takeWhile_append_dropWhile).symm
    have hword : rest <+: lowerForms (v.takeWhile (!isBlank ·)) := by
      rw [hsplit, lowerForms_append] at hprefix
      refine prefix_of_prefix_append hprefix fun c hc hmem => ?_
      cases hdrop : v.dropWhile (!isBlank ·) with
      | nil => rw [hdrop] at hc; cases hc
      | cons d ds =>
        have hd : isBlank d = true := by
          have := not_of_mem_head?_dropWhile (p := (!isBlank ·)) (s := v) (c := d) (by rw [hdrop]; rfl)
          simpa using this
        rw [hdrop, lowerForms_cons, lowerForm_of_isBlank hd] at hc
        obtain rfl : d = c := Option.some.inj hc
        exact Bool.false_ne_true ((hfragment.noBlank d hmem).symm.trans hd)
    have hplain : ∀ c ∈ symbol :: v.takeWhile (!isBlank ·), isBlank c = false := by
      have hall : ∀ d ∈ symbols, isBlank d = false := by decide
      refine List.forall_mem_cons.mpr ⟨hall symbol hfragment.mem_symbols, fun c hc => ?_⟩
      simpa using List.mem_takeWhile_imp hc
    have hpiece : symbol :: v.takeWhile (!isBlank ·) <:+: a ++ symbol :: v :=
      List.infix_append_of_infix_right
        ((List.prefix_cons_inj symbol).mpr (List.takeWhile_prefix _)).isInfix
    obtain ⟨piece, hmem, hpiece⟩ := exists_mem_cut hplain hpiece
    refine ⟨piece, List.mem_filter.mpr ⟨hmem, ?_⟩, ?_⟩
    · rw [List.isEmpty_eq_false_iff.mpr]
      · rfl
      · rintro rfl
        exact List.cons_ne_nil _ _ (List.infix_nil.mp hpiece)
    · rw [lower, infix_lowerAfter_iff hascii]
      exact (isInfix_lowerForms hfragment.mem_symbols hword []).trans (lowerForms_isInfix hpiece)

end Denylist

namespace Segment

open Text Denylist

/-! ### Where segments end -/

theorem groupExtent_closed (depth : Nat) (s : Text) :
    s.drop (groupExtent depth s) = [] ∨ ∃ t, s.take (groupExtent depth s) = t ++ [')'] := by
  induction s generalizing depth with
  | nil => exact .inl rfl
  | cons c cs ih =>
    have hstep : ∀ depth, (c :: cs).drop (groupExtent depth cs + 1) = [] ∨
        ∃ t, (c :: cs).take (groupExtent depth cs + 1) = t ++ [')'] := by
      intro depth
      refine (ih depth).imp id ?_
      rintro ⟨t, ht⟩
      exact ⟨c :: t, by rw [List.take_succ_cons, ht, List.cons_append]⟩
    unfold groupExtent
    split
    · exact hstep (depth + 1)
    · split
      · rename_i hc
        split
        · exact .inr ⟨[], by rw [beq_iff_eq.mp hc]; rfl⟩
        · exact hstep _
      · exact hstep depth

theorem attributeExtent_closed (s : Text) :
    s.drop (attributeExtent s) = [] ∨ ∃ t, s.take (attributeExtent s) = t ++ [']'] := by
  fun_induction attributeExtent s with
  | case1 => exact .inl rfl
  | case2 cs => exact .inr ⟨[], rfl⟩
  | case3 c cs ih =>
    refine ih.imp id ?_
    rintro ⟨t, ht⟩
    exact ⟨'\\' :: c :: t, by simp [ht]⟩
  | case4 c cs _ _ ih =>
    refine ih.imp id ?_
    rintro ⟨t, ht⟩
    exact ⟨c :: t, by simp [ht]⟩

theorem pseudoExtent_closed (s : Text) :
    (∀ c ∈ s.take (pseudoExtent s), isNameChar c = true) ∨ s.drop (pseudoExtent s) = [] ∨
      ∃ t, s.take (pseudoExtent s) = t ++ [')'] := by
  rw [pseudoExtent, drop_length_takeWhile]
  split
  · rename_i rest hrest
    right
    have hsplit := List.takeWhile_append_dropWhile (p := isNameChar) (l := s)
    rw [hrest] at hsplit
    generalize s.takeWhile isNameChar = name at hsplit
    rw [← hsplit, Nat.add_assoc, Nat.add_comm 1, List.take_length_add_append, List.drop_length_add_append]
    refine (groupExtent_closed 0 rest).imp id ?_
    rintro ⟨t, ht⟩
    exact ⟨name ++ '(' :: t, by rw [List.take_succ_cons, ht, List.append_assoc, List.cons_append]⟩
  · left
    rw [take_length_takeWhile]
    exact fun c hc => List.mem_takeWhile_imp hc

/-- The characters of segments without brackets. -/
def isPlainChar (c : Char) : Bool := isBlank c || isTypeChar c || ">+~*.#".toList.contains c

/-- What a segment consists of, and where it ends. -/
theorem opening_cases (c : Char) (cs : Text) :
    (opening c cs).1 = .unknown ∨ (opening c cs).1 = .pseudoElement ∨
      (∀ d ∈ c :: cs.take (opening c cs).2, isPlainChar d = true) ∨
      (c = '[' ∧ opening c cs = (.attribute, attributeExtent cs)) ∨
      (c = ':' ∧ opening c cs = (.pseudoClass, pseudoExtent cs)) := by
  have hname : ∀ d ∈ cs.takeWhile isNameChar, isPlainChar d = true := fun d hd => by
    rw [isPlainChar, isTypeChar, List.mem_takeWhile_imp hd]
    simp
  by_cases hcolon : c = ':'
  · subst hcolon
    by_cases hhead : cs.head? = some ':'
    · cases cs with
      | nil => cases hhead
      | cons d ds =>
        obtain rfl : d = ':' := Option.some.inj hhead
        exact .inr (.inl rfl)
    · exact .inr (.inr (.inr (.inr ⟨rfl, opening_colon hhead⟩)))
  by_cases hbracket : c = '['
  · subst hbracket
    exact .inr (.inr (.inr (.inl ⟨rfl, opening_bracket cs⟩)))
  have hplain : ∀ {k : SegmentKind} {n : Nat}, isPlainChar c = true → (∀ d ∈ cs.take n, isPlainChar d = true) →
      k = .unknown ∨ k = .pseudoElement ∨ (∀ d ∈ c :: cs.take n, isPlainChar d = true) ∨
        (c = '[' ∧ (k, n) = (.attribute, attributeExtent cs)) ∨ (c = ':' ∧ (k, n) = (.pseudoClass, pseudoExtent cs)) :=
    fun hc hcs => .inr (.inr (.inl (List.forall_mem_cons.mpr ⟨hc, hcs⟩)))
  have hnone : ∀ d ∈ cs.take 0, isPlainChar d = true := fun d hd => by cases hd
  unfold opening
  simp only [beq_false_of_ne hcolon, beq_false_of_ne hbracket, Bool.false_eq_true, if_false]
  split
  · rename_i hc
    refine hplain (by simp [isPlainChar, hc]) fun d hd => ?_
    rw [take_length_takeWhile] at hd
    simp [isPlainChar, List.mem_takeWhile_imp hd]
  split
  · rename_i hc
    refine hplain ?_ hnone
    simp only [isCombinator, Bool.or_eq_true, beq_iff_eq] at hc
    rcases hc with (rfl | rfl) | rfl <;> decide
  split
  · rename_i hc
    exact hplain (by rw [beq_iff_eq.mp hc]; decide) hnone
  split
  · rename_i hc
    exact hplain (by rw [beq_iff_eq.mp hc]; decide) (by rwa [take_length_takeWhile])
  split
  · rename_i hc
    exact hplain (by rw [beq_iff_eq.mp hc]; decide) (by rwa [take_length_takeWhile])
  split
  · rename_i hc
    refine hplain (by simp [isPlainChar, hc]) fun d hd => ?_
    rcases isTypeText_take_typeExtent cs d hd with hd | rfl
    · simp [isPlainChar, hd]
    · decide
  · exact .inl rfl

variable {symbol : Char} {rest : Text}

theorem eq_nil_of_isPlainChar (hfragment : IsFragment symbol rest) (hplain : isPlainChar symbol = true) : rest = [] := by
  have hall : ∀ d ∈ symbols, isPlainChar d = true → d ∈ "+~|".toList := by decide
  exact hfragment.single (hall symbol hfragment.mem_symbols hplain)

theorem prefix_lowerForms_of_closed (hfragment : IsFragment symbol rest) {v w : Text} {closer : Char}
    (hcloser : closer = ')' ∨ closer = ']') (hlast : (symbol :: v).getLast? = some closer)
    (h : rest <+: lowerForms (v ++ w)) : rest <+: lowerForms v := by
  obtain ⟨t, ht⟩ := List.getLast?_eq_some_iff.mp hlast
  cases t with
  | nil =>
    have hall : ')' ∉ symbols ∧ ']' ∉ symbols := by decide
    obtain ⟨rfl, -⟩ := List.cons.inj ht
    rcases hcloser with rfl | rfl
    · exact absurd hfragment.mem_symbols hall.1
    · exact absurd hfragment.mem_symbols hall.2
  | cons c t =>
    have hv : v = t ++ [closer] := (List.cons.inj ht).2
    have hform : lowerForms ([closer] ++ w) = closer :: lowerForms w := by
      rcases hcloser with rfl | rfl <;> rfl
    rw [hv, List.append_assoc, lowerForms_append, hform] at h
    have hprefix : rest <+: lowerForms t := by
      refine prefix_of_prefix_append h fun c hc => ?_
      obtain rfl : closer = c := Option.some.inj hc
      rcases hcloser with rfl | rfl
      · exact hfragment.noCloser.1
      · exact hfragment.noCloser.2
    rw [hv, lowerForms_append]
    exact hprefix.trans (List.prefix_append _ _)

theorem isSupported_of_refusal?_eq_none {text : Text} (h : refusal? ⟨.pseudoClass, text⟩ = none) :
    lower (text.takeWhile (· ≠ '(')) ∈ Pseudo.supportedClasses := by
  have hsupported : Pseudo.isSupported ⟨.pseudoClass, text⟩ = true := by
    by_contra hnot
    rw [refusal?, Bool.eq_false_iff.mpr hnot] at h
    cases h
  rw [Pseudo.isSupported, Bool.and_eq_true] at hsupported
  exact List.contains_iff_mem.mp hsupported.2

/-- No fragment begins where a supported pseudo class does. -/
theorem not_prefix_of_supported (hfragment : IsFragment symbol rest) {text t : Text}
    (haccepted : refusal? ⟨.pseudoClass, text⟩ = none) : ¬(symbol :: rest <+: lowerForms (text ++ t)) := by
  intro h
  have hmem := isSupported_of_refusal?_eq_none haccepted
  have hascii : ∀ name ∈ Pseudo.supportedClasses, ∀ c ∈ name, c.toNat < 128 := by decide
  have hname := lowerForms_eq_of_lower_eq (hascii _ hmem) rfl
  have hsplit : text ++ t = text.takeWhile (· ≠ '(') ++ (text.dropWhile (· ≠ '(') ++ t) := by
    rw [← List.append_assoc, List.takeWhile_append_dropWhile]
  have hprefix : lower (text.takeWhile (· ≠ '(')) <+: lowerForms (text ++ t) := by
    rw [← hname, hsplit, lowerForms_append]
    exact List.prefix_append _ _
  obtain ⟨hleft, hright⟩ := hfragment.notSupported _ hmem
  exact (List.prefix_or_prefix_of_prefix h hprefix).elim hleft hright

/-- A fragment that begins in an accepted segment ends in it. -/
theorem prefix_lowerForms_of_accepted (hfragment : IsFragment symbol rest) {g : Segment} {A : List Segment} {a v : Text}
    (hscanned : Scanned (g :: A) []) (haccepted : g.refusal? = none) (htext : g.text = a ++ symbol :: v)
    (h : rest <+: lowerForms (v ++ textOf A)) : rest <+: lowerForms v := by
  obtain ⟨⟨c, cs, hg, hopening⟩, -⟩ := scanned_cons.mp hscanned
  have hlast : (symbol :: v).getLast? = (c :: cs).getLast? := by
    rw [← hg, htext, List.getLast?_append, List.getLast?_eq_some_getLast (List.cons_ne_nil symbol v), Option.some_or]
  have hfinal : (cs ++ (textOf A ++ [])).drop cs.length = [] → rest <+: lowerForms v := by
    intro hdrop
    rw [List.drop_left, List.append_nil] at hdrop
    rwa [hdrop, List.append_nil] at h
  have hcases := opening_cases c (cs ++ (textOf A ++ []))
  obtain ⟨kind, text⟩ := g
  obtain rfl : text = c :: cs := hg
  change c :: cs = a ++ symbol :: v at htext
  rw [hopening] at hcases
  rcases hcases with hkind | hkind | hplain | ⟨rfl, hattribute⟩ | ⟨rfl, hpseudo⟩
  · simp only at hkind
    rw [hkind] at haccepted
    cases haccepted
  · simp only at hkind
    rw [hkind] at haccepted
    cases haccepted
  · simp only [List.take_left] at hplain
    have hsymbol : isPlainChar symbol = true := hplain symbol (by rw [htext]; simp)
    rw [eq_nil_of_isPlainChar hfragment hsymbol]
    exact List.nil_prefix
  · have hclosed := attributeExtent_closed (cs ++ (textOf A ++ []))
    rw [← (Prod.mk.inj hattribute).2, List.take_left] at hclosed
    rcases hclosed with hdrop | ⟨t, rfl⟩
    · exact hfinal hdrop
    · refine prefix_lowerForms_of_closed hfragment (.inr rfl) ?_ h
      rw [hlast, ← List.cons_append, List.getLast?_append]
      rfl
  · obtain ⟨rfl, hextent⟩ := Prod.mk.inj hpseudo
    cases a with
    | nil =>
      refine absurd ?_ (not_prefix_of_supported hfragment haccepted (t := textOf A))
      rw [htext, List.nil_append, List.cons_append, lowerForms_cons, lowerForm_symbol hfragment.mem_symbols]
      exact (List.prefix_cons_inj symbol).mpr h
    | cons d a =>
      have hcs : cs = a ++ symbol :: v := (List.cons.inj htext).2
      have hclosed := pseudoExtent_closed (cs ++ (textOf A ++ []))
      rw [← hextent, List.take_left] at hclosed
      rcases hclosed with hname | hdrop | ⟨t, rfl⟩
      · have hsymbol : isNameChar symbol = true := hname symbol (by rw [hcs]; simp)
        rw [eq_nil_of_isPlainChar hfragment (by simp [isPlainChar, isTypeChar, hsymbol])]
        exact List.nil_prefix
      · exact hfinal hdrop
      · refine prefix_lowerForms_of_closed hfragment (.inl rfl) ?_ h
        rw [hlast, ← List.cons_append, List.getLast?_append]
        rfl

theorem exists_mem_of_infix (hfragment : IsFragment symbol rest) {A : List Segment} (hscanned : Scanned A [])
    (haccepted : ∀ g ∈ A, g.refusal? = none) (h : symbol :: rest <:+: lowerForms (textOf A)) :
    ∃ g ∈ A, symbol :: rest <:+: lowerForms g.text := by
  induction A with
  | nil => exact absurd (List.infix_nil.mp h) (List.cons_ne_nil _ _)
  | cons g A ih =>
    have hlater : symbol :: rest <:+: lowerForms (textOf A) → ∃ k ∈ g :: A, symbol :: rest <:+: lowerForms k.text := by
      intro hlater
      obtain ⟨k, hk, hfound⟩ := ih (scanned_cons.mp hscanned).2 (fun k hk => haccepted k (List.mem_cons_of_mem g hk)) hlater
      exact ⟨k, List.mem_cons_of_mem g hk, hfound⟩
    obtain ⟨a, v, hsplit, hprefix⟩ := exists_of_infix_lowerForms hfragment.mem_symbols h
    rw [textOf_cons] at hsplit
    rcases List.append_eq_append_iff.mp hsplit with ⟨a', rfl, hA⟩ | ⟨c, htext, hv⟩
    · refine hlater ?_
      rw [hA]
      exact isInfix_lowerForms hfragment.mem_symbols hprefix a'
    · cases c with
      | nil =>
        refine hlater ?_
        rw [← List.nil_append (textOf A), ← hv]
        exact isInfix_lowerForms hfragment.mem_symbols hprefix []
      | cons d c =>
        obtain ⟨rfl, rfl⟩ := List.cons.inj hv
        refine ⟨g, List.mem_cons_self, ?_⟩
        rw [htext]
        exact isInfix_lowerForms hfragment.mem_symbols
          (prefix_lowerForms_of_accepted hfragment hscanned (haccepted g List.mem_cons_self) htext hprefix) a

/-- A segment that is written anew holds no fragment, unless the text does that it takes in. -/
theorem infix_of_isWritten (hfragment : IsFragment symbol rest) {source : Text} {g : Segment} (hg : IsWritten source g)
    (h : symbol :: rest <:+: lowerForms g.text) : symbol :: rest <:+: lowerForms source := by
  obtain ⟨a, v, hsplit, -⟩ := exists_of_infix_lowerForms hfragment.mem_symbols h
  have hsymbol : symbol ∈ g.text := hsplit ▸ List.mem_append_right a List.mem_cons_self
  rcases hg with rfl | rfl | ⟨control, s, hs, hfound, rfl⟩
  · have hroot : lowerForms ":root" = ':' :: "root".toList := by decide
    have hname : ':' :: "root".toList ∈ Pseudo.supportedClasses := by decide
    have hall : ∀ d ∈ "root".toList, d ∉ symbols := by decide
    change symbol :: rest <:+: lowerForms ":root" at h
    rw [hroot] at h
    rcases List.infix_cons_iff.mp h with hprefix | hfound
    · exact absurd hprefix (hfragment.notSupported _ hname).1
    · exact absurd hfragment.mem_symbols (hall _ (hfound.subset List.mem_cons_self))
  · have hall : ' ' ∉ symbols := by decide
    exact absurd (List.mem_singleton.mp hsymbol ▸ hfragment.mem_symbols) hall
  · have hname : ∀ c ∈ control.name, c ∉ symbols := by cases control <;> decide
    have hmem : symbol ∈ s := (List.mem_append.mp hsymbol).resolve_left fun h => hname symbol h hfragment.mem_symbols
    have hplain : isPlainChar symbol = true := by
      rcases hs symbol hmem with h | rfl
      · simp [isPlainChar, h]
      · decide
    rw [eq_nil_of_isPlainChar hfragment hplain]
    obtain ⟨b, w, rfl⟩ := List.append_of_mem hmem
    exact (isInfix_lowerForms hfragment.mem_symbols List.nil_prefix b).trans (lowerForms_isInfix hfound)

theorem refusal?_of_isWritten {source : Text} {g : Segment} (hg : IsWritten source g) : g.refusal? = none := by
  rcases hg with rfl | rfl | ⟨control, s, -, -, rfl⟩
  · decide
  · rfl
  · rfl

end Segment

namespace Selector

open Text Segment Denylist

theorem breakingMatch?_eq_none_iff {policy : Policy} {word : Text} :
    policy.breakingMatch? word = none ↔ ∀ fragment ∈ policy.denylist, ¬fragment <:+: lower word := by
  simp only [Policy.breakingMatch?, List.find?_eq_none, occursIn_iff]

theorem refusal?_eq_none_iff {policy : Policy} {s : Selector} :
    s.refusal? policy = none ↔
      (∀ word ∈ words s.raw, policy.breakingMatch? word = none) ∧ ∀ g ∈ s.segments, g.refusal? = none := by
  rw [← List.findSome?_eq_none_iff, refusal?]
  cases (words s.raw).findSome? policy.breakingMatch? with
  | none => simp [List.findSome?_eq_none_iff]
  | some fragment => simp

theorem rewritten_ofText {raw : Text} (htrim : trim raw = raw) : (Selector.ofText raw).rewritten = rewriting (scan raw) := by
  have hscanned := scanned_scan raw
  refine trim_eq_self (fun c hc => ?_) ?_
  · have hmarks := firstMarks_rewriting hscanned
    rw [textOf_scan, firstMarks, firstMarks] at hmarks
    change c ∈ (rewriting (scan raw)).head? at hc
    rw [Option.mem_def.mp hc] at hmarks
    obtain ⟨d, hd, heq⟩ := Option.map_eq_some_iff.mp hmarks.symm
    rw [← (Prod.mk.inj heq).1]
    exact head?_trim (htrim.symm ▸ hd)
  · refine endsPlain_rewriting hscanned fun c hc => ?_
    rw [Selector.ofText, textOf_scan] at hc
    exact getLast?_trim (htrim.symm ▸ hc)

theorem rewritten_accepted {raw : Text} (htrim : trim raw = raw) (haccepted : ∀ g ∈ scan raw, g.refusal? = none) :
    (∀ g ∈ scan (Selector.ofText raw).rewritten, g.refusal? = none) ∧
      (Selector.ofText (Selector.ofText raw).rewritten).rewritten = (Selector.ofText raw).rewritten := by
  obtain ⟨B, hscanned, htext, hrewriting, -, hmem⟩ := exists_scanned_rewriting (scanned_scan raw)
  have hrewritten : trim (rewriting (scan raw)) = rewriting (scan raw) := by
    rw [← rewritten_ofText htrim, Selector.rewritten, trim_trim]
  rw [rewritten_ofText htrim]
  constructor
  · rw [← htext, hscanned.scan_eq]
    exact fun g hg => (hmem g hg).elim (haccepted g) refusal?_of_isWritten
  · rw [rewritten_ofText hrewritten, ← htext, hscanned.scan_eq, hrewriting, htext]

/-- Rewriting brings in no fragment. -/
theorem infix_of_rewritten {raw : Text} (htrim : trim raw = raw) (haccepted : ∀ g ∈ scan raw, g.refusal? = none)
    {symbol : Char} {rest : Text} (hshape : IsFragment symbol rest)
    (h : symbol :: rest <:+: lowerForms (Selector.ofText raw).rewritten) : symbol :: rest <:+: lowerForms raw := by
  obtain ⟨B, hscanned, htext, -, -, hmem⟩ := exists_scanned_rewriting (scanned_scan raw)
  rw [rewritten_ofText htrim, ← htext] at h
  obtain ⟨g, hg, hfound⟩ :=
    exists_mem_of_infix hshape hscanned (fun g hg => (hmem g hg).elim (haccepted g) refusal?_of_isWritten) h
  rcases hmem g hg with hg | hg
  · refine hfound.trans (lowerForms_isInfix ?_)
    rw [← textOf_scan raw, textOf]
    exact List.infix_of_mem_flatten (List.mem_map_of_mem hg)
  · rw [textOf_scan] at hg
    exact infix_of_isWritten hshape hg hfound

/-- Where no word meets the bundled denylist, no fragment on it occurs in the rewritten text. -/
theorem not_infix_rewritten {raw : Text} (htrim : trim raw = raw) (haccepted : ∀ g ∈ scan raw, g.refusal? = none)
    (hwords : ∀ word ∈ words raw, Policy.bundled.breakingMatch? word = none) {fragment : Text}
    (hfragment : fragment ∈ Policy.bundled.denylist) :
    (∀ word ∈ words (Selector.ofText raw).rewritten, ¬fragment <:+: lower word) ∧
      ¬fragment <:+: lower (Selector.ofText raw).rewritten := by
  obtain ⟨symbol, rest, rfl, hshape⟩ := isFragment_of_mem hfragment
  have hforms : ¬symbol :: rest <:+: lowerForms (Selector.ofText raw).rewritten := by
    intro hmeets
    obtain ⟨word, hword, hfound⟩ :=
      (exists_mem_words_iff hshape).mpr (infix_of_rewritten htrim haccepted hshape hmeets)
    exact breakingMatch?_eq_none_iff.mp (hwords word hword) _ hfragment hfound
  constructor
  · intro word hword hfound
    exact hforms ((exists_mem_words_iff hshape).mp ⟨word, hword, hfound⟩)
  · rwa [lower, infix_lowerAfter_iff hshape.forall_ascii]

/-- An accepted selector is accepted as it was rewritten, and stays as it is. -/
theorem rewritten_rewritten {raw : Text} (htrim : trim raw = raw)
    (h : (Selector.ofText raw).refusal? Policy.bundled = none) :
    (Selector.ofText (Selector.ofText raw).rewritten).refusal? Policy.bundled = none ∧
      (Selector.ofText (Selector.ofText raw).rewritten).rewritten = (Selector.ofText raw).rewritten := by
  obtain ⟨hwords, haccepted⟩ := refusal?_eq_none_iff.mp h
  obtain ⟨hstays, hrewritten⟩ := rewritten_accepted htrim haccepted
  refine ⟨refusal?_eq_none_iff.mpr ⟨fun word hword => ?_, hstays⟩, hrewritten⟩
  rw [breakingMatch?_eq_none_iff]
  intro fragment hfragment
  exact (not_infix_rewritten htrim haccepted hwords hfragment).1 word hword

end Selector

end UiToolkit
