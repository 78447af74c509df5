import Mathlib.Data.List.Basic
import Mathlib.Data.List.TakeWhile
import UiToolkit.Proofs.Characters
import UiToolkit.Text.Blank

/-!
# Words

Blanks at the ends of a text and between its words. A fragment without blanks occurs in a text exactly when it occurs in one of the words, and it occurs in the lower case of a text exactly when it occurs in the characters of the text put into lower case one by one: the one place where lower case depends on context is outside ASCII. Lower case that is in ASCII is its own lower case.
-/

namespace UiToolkit

namespace Text

/-- The code points of blank characters. -/
def blankCodes : List Nat :=
  List.range' 9 5 ++ List.range' 0x1C 5 ++ [0x85, 0xA0, 0x1680] ++ List.range' 0x2000 11 ++
    [0x2028, 0x2029, 0x202F, 0x205F, 0x3000]

theorem forall_blank {p : Char → Bool} (h : blankCodes.all (fun n => p (Char.ofNat n)) = true) {c : Char}
    (hc : isBlank c = true) : p c = true := by
  rw [← Char.ofNat_toNat c]
  refine List.all_eq_true.mp h _ ?_
  simp only [isBlank, Bool.or_eq_true, Bool.and_eq_true, decide_eq_true_eq, beq_iff_eq] at hc
  simp only [blankCodes, List.mem_append, List.mem_range'_1, List.mem_cons, List.not_mem_nil, or_false]
  omega

theorem isAlphanumeric_of_isBlank {c : Char} (hc : isBlank c = true) : isAlphanumeric c = false := by
  have hnone := forall_blank (p := fun d => !isAlphanumeric d) (by decide +kernel) hc
  rwa [Bool.not_eq_true'] at hnone

theorem isWordChar_of_isBlank {c : Char} (hc : isBlank c = true) : isWordChar c = false := by
  have hother := forall_blank (p := fun d => d != '_') (by decide) hc
  rw [isWordChar, isAlphanumeric_of_isBlank hc, Bool.or_false, ← Bool.not_eq_true']
  exact hother

/-! ### Runs -/

theorem takeWhile_append_of_stop {p : Char → Bool} {a b : Text} (hb : b.takeWhile p = []) :
    (a ++ b).takeWhile p = a.takeWhile p := by
  rw [List.takeWhile_append, hb, List.append_nil]
  split
  · rename_i hlength
    exact ((List.takeWhile_prefix p).eq_of_length hlength).symm
  · rfl

theorem drop_length_takeWhile (p : Char → Bool) (s : Text) : s.drop (s.takeWhile p).length = s.dropWhile p := by
  calc s.drop (s.takeWhile p).length
      = (s.takeWhile p ++ s.dropWhile p).drop (s.takeWhile p).length := by rw [List.takeWhile_append_dropWhile]
    _ = s.dropWhile p := List.drop_left

theorem take_length_takeWhile (p : Char → Bool) (s : Text) : s.take (s.takeWhile p).length = s.takeWhile p :=
  (List.prefix_iff_eq_take.mp (List.takeWhile_prefix p)).symm

/-! ### Trimming -/

theorem dropEndWhile_eq_self {p : Char → Bool} {s : Text} (h : ∀ c ∈ s.getLast?, p c = false) : dropEndWhile p s = s := by
  rw [dropEndWhile, ← List.reverse_inj, List.reverse_reverse]
  cases hreverse : s.reverse with
  | nil => rfl
  | cons c cs =>
    have hc : c ∈ s.getLast? := by rw [List.getLast?_eq_head?_reverse, hreverse]; rfl
    rw [List.dropWhile_cons, h c hc, if_neg Bool.false_ne_true]

theorem trimWhile_eq_self {p : Char → Bool} {s : Text} (hhead : ∀ c ∈ s.head?, p c = false)
    (hlast : ∀ c ∈ s.getLast?, p c = false) : trimWhile p s = s := by
  have hdrop : s.dropWhile p = s := by
    cases s with
    | nil => rfl
    | cons c cs => rw [List.dropWhile_cons, hhead c rfl, if_neg Bool.false_ne_true]
  rw [trimWhile, hdrop, dropEndWhile_eq_self hlast]

theorem trim_eq_self {s : Text} (hhead : ∀ c ∈ s.head?, isBlank c = false) (hlast : ∀ c ∈ s.getLast?, isBlank c = false) :
    trim s = s :=
  trimWhile_eq_self hhead hlast

theorem trim_eq_self_of_all {s : Text} (h : ∀ c ∈ s, isBlank c = false) : trim s = s :=
  trim_eq_self (fun c hc => h c (List.mem_of_head? hc)) fun c hc => h c (List.mem_of_getLast? hc)

theorem not_of_mem_head?_dropWhile {p : Char → Bool} {s : Text} {c : Char} (h : c ∈ (s.dropWhile p).head?) : p c = false := by
  have hhead := List.head?_dropWhile_not p s
  rwa [Option.mem_def.mp h] at hhead

theorem exists_eq_dropEndWhile_append (p : Char → Bool) (s : Text) :
    ∃ ending, s = dropEndWhile p s ++ ending ∧ ∀ c ∈ ending, p c = true := by
  refine ⟨(s.reverse.takeWhile p).reverse, ?_, fun c hc => ?_⟩
  · rw [dropEndWhile, ← List.reverse_append, List.takeWhile_append_dropWhile, List.reverse_reverse]
  · exact List.mem_takeWhile_imp (List.mem_reverse.mp hc)

theorem head?_trimWhile {p : Char → Bool} {s : Text} {c : Char} (h : c ∈ (trimWhile p s).head?) : p c = false := by
  obtain ⟨ending, hsplit, -⟩ := exists_eq_dropEndWhile_append p (s.dropWhile p)
  refine not_of_mem_head?_dropWhile (s := s) ?_
  rw [hsplit, List.head?_append]
  exact Option.mem_def.mpr (by rw [← Option.mem_def.mp h]; exact Option.or_of_isSome (Option.isSome_of_mem h))

theorem getLast?_trimWhile {p : Char → Bool} {s : Text} {c : Char} (h : c ∈ (trimWhile p s).getLast?) : p c = false := by
  rw [trimWhile, dropEndWhile, List.getLast?_reverse] at h
  exact not_of_mem_head?_dropWhile h

theorem head?_trim {s : Text} {c : Char} (h : c ∈ (trim s).head?) : isBlank c = false := head?_trimWhile h

theorem getLast?_trim {s : Text} {c : Char} (h : c ∈ (trim s).getLast?) : isBlank c = false := getLast?_trimWhile h

@[simp] theorem trim_trim (s : Text) : trim (trim s) = trim s :=
  trim_eq_self (fun _ => head?_trim) fun _ => getLast?_trim

theorem exists_eq_trimWhile (p : Char → Bool) (s : Text) :
    ∃ a b, s = a ++ (trimWhile p s ++ b) ∧ (∀ c ∈ a, p c = true) ∧ ∀ c ∈ b, p c = true := by
  obtain ⟨ending, hending, hall⟩ := exists_eq_dropEndWhile_append p (s.dropWhile p)
  refine ⟨s.takeWhile p, ending, ?_, fun c hc => List.mem_takeWhile_imp hc, hall⟩
  rw [show trimWhile p s ++ ending = s.dropWhile p from hending.symm, List.takeWhile_append_dropWhile]

theorem infix_trimWhile (p : Char → Bool) (s : Text) : trimWhile p s <:+: s := by
  obtain ⟨a, b, hsplit, -⟩ := exists_eq_trimWhile p s
  exact ⟨a, b, by rw [List.append_assoc, ← hsplit]⟩

theorem exists_eq_trim (s : Text) : ∃ a b, s = a ++ (trim s ++ b) ∧ (∀ c ∈ a, isBlank c = true) ∧ ∀ c ∈ b, isBlank c = true :=
  exists_eq_trimWhile isBlank s

theorem trim_append {a b : Text} (ha : ∀ c ∈ a, isBlank c = true) (hb : ∀ c ∈ b, isBlank c = true) (s : Text) :
    trim (a ++ (s ++ b)) = trim s := by
  have hdrop : ∀ {w : Text}, (∀ c ∈ w, isBlank c = true) → ∀ t : Text, (w ++ t).dropWhile isBlank = t.dropWhile isBlank :=
    fun hw t => List.dropWhile_append_of_pos hw
  rw [trim, trim, trimWhile, trimWhile, hdrop ha]
  cases hs : s.dropWhile isBlank with
  | nil =>
    have hall : ∀ c ∈ s, isBlank c = true := List.dropWhile_eq_nil_iff.mp hs
    rw [hdrop hall, List.dropWhile_eq_nil_iff.mpr hb]
  | cons c cs =>
    have hsplit : (s ++ b).dropWhile isBlank = c :: cs ++ b := by
      rw [List.dropWhile_append, hs]
      rfl
    rw [hsplit, dropEndWhile, dropEndWhile, List.reverse_append, hdrop fun d hd => hb d (List.mem_reverse.mp hd)]

/-! ### Occurrences -/

theorem occursIn_iff {needle s : Text} : occursIn needle s = true ↔ needle <:+: s := by
  induction s with
  | nil => simp [occursIn]
  | cons c cs ih => rw [occursIn, Bool.or_eq_true, List.isPrefixOf_iff_prefix, ih, List.infix_cons_iff]

theorem isPrefixOf_eq_false {word s : Text} (hne : word ≠ []) (hhead : s.head? ≠ word.head?) : word.isPrefixOf s = false := by
  refine Bool.eq_false_iff.mpr fun h => hhead ?_
  obtain ⟨after, rfl⟩ := List.isPrefixOf_iff_prefix.mp h
  exact List.head?_append_of_ne_nil word hne

theorem cut_eq_cons (p : Char → Bool) (s : Text) : ∃ pieces, cut p s = s.takeWhile (!p ·) :: pieces := by
  induction s with
  | nil => exact ⟨[], rfl⟩
  | cons c cs ih =>
    obtain ⟨pieces, hpieces⟩ := ih
    rw [cut, List.takeWhile_cons, hpieces]
    cases p c
    · exact ⟨pieces, rfl⟩
    · exact ⟨_, rfl⟩

theorem infix_of_mem_cut {p : Char → Bool} {piece s : Text} (h : piece ∈ cut p s) : piece <:+: s := by
  induction s with
  | nil =>
    obtain rfl := List.mem_singleton.mp h
    exact List.infix_rfl
  | cons c cs ih =>
    obtain ⟨pieces, hpieces⟩ := cut_eq_cons p cs
    rw [cut] at h
    split at h
    · rcases List.mem_cons.mp h with rfl | h
      · exact List.nil_infix
      · exact List.infix_cons (ih h)
    · rw [hpieces] at h ih
      rcases List.mem_cons.mp h with rfl | h
      · exact (List.prefix_cons_inj c |>.mpr (List.takeWhile_prefix _)).isInfix
      · exact List.infix_cons (ih (List.mem_cons_of_mem _ h))

theorem exists_mem_cut {p : Char → Bool} {u s : Text} (hu : ∀ c ∈ u, p c = false) (h : u <:+: s) :
    ∃ piece ∈ cut p s, u <:+: piece := by
  have hfirst : ∀ t, u <+: t → ∃ piece ∈ cut p t, u <:+: piece := by
    intro t ht
    obtain ⟨pieces, hpieces⟩ := cut_eq_cons p t
    refine ⟨_, hpieces ▸ List.mem_cons_self, List.IsPrefix.isInfix ?_⟩
    obtain ⟨rest, rfl⟩ := ht
    rw [List.takeWhile_append_of_pos fun c hc => by rw [hu c hc]; rfl]
    exact List.prefix_append u _
  induction s with
  | nil => exact hfirst [] (List.infix_nil.mp h ▸ List.prefix_rfl)
  | cons c cs ih =>
    rcases List.infix_cons_iff.mp h with h | h
    · exact hfirst _ h
    · obtain ⟨piece, hpiece, hinfix⟩ := ih h
      obtain ⟨pieces, hpieces⟩ := cut_eq_cons p cs
      rw [cut]
      split
      · exact ⟨piece, List.mem_cons_of_mem _ hpiece, hinfix⟩
      · rw [hpieces] at hpiece ⊢
        rcases List.mem_cons.mp hpiece with rfl | hpiece
        · exact ⟨_, List.mem_cons_self, List.infix_cons hinfix⟩
        · exact ⟨piece, List.mem_cons_of_mem _ hpiece, hinfix⟩

theorem cut_append_of_forall {p : Char → Bool} {w : Text} (hw : ∀ c ∈ w, p c = true) (s : Text) :
    cut p (s ++ w) = cut p s ++ w.map fun _ => [] := by
  induction s with
  | nil =>
    induction w with
    | nil => rfl
    | cons c w ih =>
      obtain ⟨hc, hw⟩ := List.forall_mem_cons.mp hw
      calc cut p (c :: w) = [] :: cut p w := by rw [cut, if_pos hc]
        _ = [] :: (cut p [] ++ w.map fun _ => []) := congrArg ([] :: ·) (ih hw)
  | cons c s ih =>
    obtain ⟨pieces, hpieces⟩ := cut_eq_cons p s
    rw [List.cons_append, cut, cut, ih, hpieces]
    cases p c <;> rfl

theorem cut_append_cons {p : Char → Bool} {c : Char} (hc : p c = true) (s t : Text) :
    cut p (s ++ c :: t) = cut p s ++ cut p t := by
  induction s with
  | nil =>
    calc cut p (c :: t) = [] :: cut p t := by rw [cut, if_pos hc]
      _ = cut p [] ++ cut p t := rfl
  | cons d s ih =>
    obtain ⟨pieces, hpieces⟩ := cut_eq_cons p s
    rw [List.cons_append, cut, cut, ih, hpieces]
    cases p d <;> rfl

/-- A text without separators goes to the last piece of what it comes after. -/
theorem exists_cut_append {p : Char → Bool} {u : Text} (hu : ∀ c ∈ u, p c = false) (s : Text) :
    ∃ outer last, cut p s = outer ++ [last] ∧ cut p (s ++ u) = outer ++ [last ++ u] := by
  induction s with
  | nil =>
    refine ⟨[], [], rfl, ?_⟩
    induction u with
    | nil => rfl
    | cons c u ih =>
      obtain ⟨hc, hu⟩ := List.forall_mem_cons.mp hu
      have hrest : cut p u = [u] := ih hu
      rw [List.nil_append, cut, if_neg (by simp [hc]), hrest]
      rfl
  | cons c s ih =>
    obtain ⟨outer, last, hs, hsu⟩ := ih
    rw [List.cons_append, cut, cut, hs, hsu]
    cases p c
    · cases outer with
      | nil => exact ⟨[], c :: last, rfl, rfl⟩
      | cons piece outer => exact ⟨(c :: piece) :: outer, last, rfl, rfl⟩
    · exact ⟨[] :: outer, last, rfl, rfl⟩

theorem not_of_mem_cut {p : Char → Bool} {piece s : Text} (h : piece ∈ cut p s) : ∀ c ∈ piece, p c = false := by
  induction s generalizing piece with
  | nil =>
    obtain rfl := List.mem_singleton.mp h
    simp
  | cons c cs ih =>
    obtain ⟨pieces, hpieces⟩ := cut_eq_cons p cs
    rw [cut, hpieces] at h
    rw [hpieces] at ih
    cases hc : p c
    · rw [hc] at h
      rcases List.mem_cons.mp h with rfl | h
      · exact List.forall_mem_cons.mpr ⟨hc, ih List.mem_cons_self⟩
      · exact ih (List.mem_cons_of_mem _ h)
    · rw [hc] at h
      rcases List.mem_cons.mp h with rfl | h
      · simp
      · exact ih h

theorem words_append_cons {c : Char} (hc : isBlank c = true) (s t : Text) : words (s ++ c :: t) = words s ++ words t := by
  rw [words, cut_append_cons hc, List.filter_append, words, words]

theorem words_cons_of_blank {c : Char} (hc : isBlank c = true) (s : Text) : words (c :: s) = words s :=
  words_append_cons hc [] s

theorem words_cons_of_not_blank {c : Char} (hc : isBlank c = false) (s : Text) :
    ((∀ d ∈ s.head?, isBlank d = true) ∧ words (c :: s) = [c] :: words s) ∨
      ∃ d ds, s = d :: ds ∧ isBlank d = false ∧
        ∃ word rest, words s = word :: rest ∧ words (c :: s) = (c :: word) :: rest := by
  obtain ⟨pieces, hpieces⟩ := cut_eq_cons isBlank s
  have hcut : cut isBlank (c :: s) = (c :: s.takeWhile (!isBlank ·)) :: pieces := by
    rw [cut, if_neg (by simp [hc]), hpieces]
  rw [words, words, hcut, hpieces, List.filter_cons_of_pos (by simp)]
  cases s with
  | nil => exact .inl ⟨by simp, rfl⟩
  | cons d ds =>
    by_cases hd : isBlank d = true
    · refine .inl ⟨by simpa using hd, ?_⟩
      rw [List.takeWhile_cons_of_neg (by simp [hd])]
      rfl
    · refine .inr ⟨d, ds, rfl, by simpa using hd, _, _, ?_, rfl⟩
      rw [List.takeWhile_cons_of_pos (by simpa using hd), List.filter_cons_of_pos (by simp)]

theorem ne_nil_of_mem_words {word s : Text} (h : word ∈ words s) : word ≠ [] := by
  simpa using (List.mem_filter.mp h).2

theorem not_isBlank_of_mem_words {word s : Text} (h : word ∈ words s) : ∀ c ∈ word, isBlank c = false :=
  not_of_mem_cut (List.mem_filter.mp h).1

theorem trim_of_mem_words {word value : Text} (h : word ∈ words value) : trim word = word :=
  trim_eq_self_of_all (not_isBlank_of_mem_words h)

theorem words_trim (s : Text) : words (trim s) = words s := by
  have hfront : ∀ {a : Text}, (∀ c ∈ a, isBlank c = true) → ∀ t, words (a ++ t) = words t := by
    intro a ha t
    induction a with
    | nil => rfl
    | cons c a ih =>
      obtain ⟨hc, ha⟩ := List.forall_mem_cons.mp ha
      rw [List.cons_append, ← ih ha, words, words, cut, if_pos hc]
      rfl
  have hback : ∀ {b : Text}, (∀ c ∈ b, isBlank c = true) → ∀ t, words (t ++ b) = words t := by
    intro b hb t
    have hempty : ((!·.isEmpty) ∘ fun _ : Char => ([] : Text)) = fun _ => false := rfl
    rw [words, cut_append_of_forall hb, List.filter_append, List.filter_map, hempty, List.filter_false, List.map_nil,
      List.append_nil, words]
  obtain ⟨a, b, hs, ha, hb⟩ := exists_eq_trim s
  rw [← hback hb (trim s), ← hfront ha, ← hs]

theorem cut_of_forall {s : Text} {p : Char → Bool} (hs : ∀ c ∈ s, p c = false) : cut p s = [s] := by
  obtain ⟨outer, last, hnil, happend⟩ := exists_cut_append hs []
  have hlength := congrArg List.length hnil
  cases outer with
  | nil =>
    obtain rfl : [] = last := List.singleton_inj.mp hnil
    exact happend
  | cons piece outer => simp [cut] at hlength

theorem words_of_forall {s : Text} (hne : s ≠ []) (hs : ∀ c ∈ s, isBlank c = false) : words s = [s] := by
  rw [words, cut_of_forall hs]
  simp [hne]

theorem joinWith_cons (separator first : Text) (parts : List Text) :
    joinWith separator (first :: parts) = first ++ parts.flatMap (separator ++ ·) := by
  induction parts generalizing first with
  | nil => simp [joinWith]
  | cons part parts ih =>
    have hcons : joinWith separator (first :: part :: parts) = first ++ separator ++ joinWith separator (part :: parts) :=
      List.intercalate_cons_cons
    rw [hcons, ih, List.flatMap_cons]
    simp only [List.append_assoc]

theorem mem_joinWith {separator : Text} {parts : List Text} {c : Char} (h : c ∈ joinWith separator parts) :
    c ∈ separator ∨ ∃ part ∈ parts, c ∈ part := by
  cases parts with
  | nil => cases h
  | cons first parts =>
    rw [joinWith_cons] at h
    rcases List.mem_append.mp h with hfirst | hrest
    · exact .inr ⟨first, List.mem_cons_self, hfirst⟩
    · obtain ⟨part, hpart, hc⟩ := List.mem_flatMap.mp hrest
      exact (List.mem_append.mp hc).imp_right fun hc => ⟨part, List.mem_cons_of_mem first hpart, hc⟩

/-- Words that are joined by spaces are told apart again. -/
theorem words_joinWith {ws : List Text} (hne : ∀ word ∈ ws, word ≠ []) (hblank : ∀ word ∈ ws, ∀ c ∈ word, isBlank c = false) :
    words (joinWith [' '] ws) = ws := by
  induction ws with
  | nil => rfl
  | cons word ws ih =>
    obtain ⟨hword, hne⟩ := List.forall_mem_cons.mp hne
    obtain ⟨hletters, hblank⟩ := List.forall_mem_cons.mp hblank
    have hfirst : words word = [word] := words_of_forall hword hletters
    cases ws with
    | nil => rw [joinWith_cons, List.flatMap_nil, List.append_nil, hfirst]
    | cons next ws =>
      have hjoin : joinWith [' '] (word :: next :: ws) = word ++ ' ' :: joinWith [' '] (next :: ws) := by
        rw [joinWith_cons, joinWith_cons, List.flatMap_cons]
        rfl
      rw [hjoin, words_append_cons (by decide), hfirst, ih hne hblank]
      rfl

/-! ### Lower case of ASCII -/

theorem exists_lowerAfter_append {s : Text} (hs : ∀ c ∈ s, c.toNat < 128) (afterCased : Bool) (t : Text) :
    ∃ afterCased', lowerAfter afterCased (s ++ t) = s.map Char.toLower ++ lowerAfter afterCased' t := by
  induction s generalizing afterCased with
  | nil => exact ⟨afterCased, rfl⟩
  | cons c s ih =>
    obtain ⟨afterCased', h⟩ :=
      ih (fun d hd => hs d (List.mem_cons_of_mem _ hd)) (if isCaseIgnorable c then afterCased else isCased c)
    have hc := hs c List.mem_cons_self
    have hsigma : (c == 'Σ') = false := beq_false_of_ne (by rintro rfl; exact absurd hc (by decide))
    refine ⟨afterCased', ?_⟩
    rw [List.cons_append, lowerAfter, h, hsigma]
    simp [lowerForm, hc]

theorem lower_eq_map {s : Text} (hs : ∀ c ∈ s, c.toNat < 128) : lower s = s.map Char.toLower := by
  obtain ⟨afterCased, h⟩ := exists_lowerAfter_append hs false []
  rwa [List.append_nil, lowerAfter, List.append_nil] at h

theorem lowerForm_ne_nil (c : Char) : lowerForm c ≠ [] := by
  unfold lowerForm
  dsimp only
  split
  · exact List.cons_ne_nil _ _
  · split <;> exact List.cons_ne_nil _ _

theorem lowerAfter_eq_nil {afterCased : Bool} {s : Text} (h : lowerAfter afterCased s = []) : s = [] := by
  cases s with
  | nil => rfl
  | cons c s =>
    rw [lowerAfter] at h
    have hform := (List.append_eq_nil_iff.mp h).1
    split at hform
    · cases hform
    · exact absurd hform (lowerForm_ne_nil c)

/-! ### Fragments in lower case -/

/-- The characters of a text in lower case, each on its own. -/
def lowerForms (s : Text) : Text := s.flatMap lowerForm

/-- The final form of the sigma as the common one. -/
def plainSigma (c : Char) : Char := if c = 'ς' then 'σ' else c

theorem map_plainSigma_lowerAfter (afterCased : Bool) (s : Text) :
    (lowerAfter afterCased s).map plainSigma = (lowerForms s).map plainSigma := by
  induction s generalizing afterCased with
  | nil => rfl
  | cons c cs ih =>
    rw [lowerAfter, lowerForms, List.flatMap_cons, List.map_append, List.map_append, ih]
    congr 1
    split
    · rename_i hc
      obtain rfl : c = 'Σ' := beq_iff_eq.mp hc
      split <;> decide
    · rfl

/-- A fragment in ASCII occurs in the lower case of a text if it occurs in the lower case of the single characters. -/
theorem infix_lowerAfter_iff {fragment : Text} (hascii : ∀ c ∈ fragment, c.toNat < 128) {afterCased : Bool} {s : Text} :
    fragment <:+: lowerAfter afterCased s ↔ fragment <:+: lowerForms s := by
  have hfix : ∀ t : Text, fragment <:+: t ↔ fragment <:+: t.map plainSigma := by
    intro t
    rw [List.infix_map_iff]
    constructor
    · intro h
      refine ⟨fragment, h, (List.map_congr_left fun c hc => if_neg ?_).trans (List.map_id _) |>.symm⟩
      rintro rfl
      exact absurd (hascii _ hc) (by decide)
    · rintro ⟨u, hu, hfragment⟩
      have hplain : u.map plainSigma = u := by
        refine (List.map_congr_left fun c hc => if_neg ?_).trans (List.map_id _)
        rintro rfl
        have hsigma : plainSigma 'ς' ∈ fragment := hfragment ▸ List.mem_map_of_mem hc
        exact absurd (hascii _ hsigma) (by decide)
      rwa [hfragment, hplain]
  rw [hfix, map_plainSigma_lowerAfter, ← hfix]

theorem lowerForms_eq_of_lower_eq {s t : Text} (hascii : ∀ c ∈ t, c.toNat < 128) (h : lower s = t) : lowerForms s = t := by
  have hlength := congrArg List.length (map_plainSigma_lowerAfter false s)
  rw [List.length_map, List.length_map] at hlength
  rw [← h] at hascii ⊢
  exact (((infix_lowerAfter_iff hascii).mp List.infix_rfl).eq_of_length hlength).symm

/-- The images of the lower case runs are outside ASCII, but for that of the Kelvin sign, which is no image itself. -/
theorem image_of_mem_lowerRuns {run : CaseRun} (hrun : run ∈ lowerRuns) {n m : Nat} (h : run.image? n = some m) :
    (128 ≤ (Char.ofNat m).toNat ∧ Char.ofNat m ≠ '\u212A') ∨ (n = 0x212A ∧ m = 0x6B) := by
  have hruns : ∀ run ∈ lowerRuns, (128 ≤ run.target ∧ run.target + (run.last - run.first) < 0x110000 ∧
      (run.target + (run.last - run.first) < 0xD800 ∨ 0xDFFF < run.target) ∧
      (run.target + (run.last - run.first) < 0x212A ∨ 0x212A < run.target)) ∨
        (run.first = 0x212A ∧ run.last = 0x212A ∧ run.target = 0x6B) := by
    decide +kernel
  rw [CaseRun.image?, Option.ite_none_right_eq_some] at h
  obtain ⟨hbounds, hm⟩ := h
  simp only [Bool.and_eq_true, decide_eq_true_eq, Option.some.injEq] at hbounds hm
  rcases hruns run hrun with ⟨hlarge, hmax, hvalid, hkelvin⟩ | ⟨hfirst, hlast, htarget⟩
  · have hchar : m.isValidChar := by
      rw [Nat.isValidChar]
      omega
    have htoNat : (Char.ofNat m).toNat = m := by
      rw [Char.ofNat, dif_pos hchar]
      rfl
    refine .inl ⟨by omega, fun heq => ?_⟩
    have hcode : m = 0x212A := htoNat.symm.trans (congrArg Char.toNat heq)
    omega
  · omega

/-- The only characters outside ASCII with a lower case inside it are a capital `i` with a dot and the Kelvin sign. -/
theorem toLower_of_mem_lowerForm {c d : Char} (h : d ∈ lowerForm c) (hd : d.toNat < 128) :
    (c.toNat < 128 ∧ c.toLower = d) ∨ d = 'i' ∨ d = 'k' := by
  unfold lowerForm at h
  dsimp only at h
  split at h
  · rename_i hc
    exact .inl ⟨hc, (List.mem_singleton.mp h).symm⟩
  · split at h
    · rcases List.mem_cons.mp h with rfl | h
      · exact .inr (.inl rfl)
      · rw [List.mem_singleton.mp h] at hd
        exact absurd hd (by decide)
    · rename_i hc _
      have hd' := List.mem_singleton.mp h
      cases himage : lowerRuns.findSome? (·.image? c.toNat) with
      | none =>
        rw [himage, Option.map_none, Option.getD_none] at hd'
        exact absurd (hd' ▸ hd) hc
      | some m =>
        rw [himage, Option.map_some, Option.getD_some] at hd'
        obtain ⟨run, hrun, hm⟩ := List.exists_of_findSome?_eq_some himage
        rcases image_of_mem_lowerRuns hrun hm with ⟨hlarge, -⟩ | ⟨-, rfl⟩
        · exact absurd (hd' ▸ hd) (Nat.not_lt.mpr hlarge)
        · exact .inr (.inr hd')

/-! ### Lower case of lower case -/

theorem kelvin_notMem_lowerForm (c : Char) : '\u212A' ∉ lowerForm c := by
  intro h
  unfold lowerForm at h
  dsimp only at h
  split at h
  · rename_i hc
    have hsmall := forall_ascii (p := fun d => decide (d.toLower ≠ '\u212A')) (by decide) hc
    exact of_decide_eq_true hsmall (List.mem_singleton.mp h).symm
  · split at h
    · exact absurd h (by decide)
    · have hd := List.mem_singleton.mp h
      cases himage : lowerRuns.findSome? (·.image? c.toNat) with
      | none =>
        rw [himage, Option.map_none, Option.getD_none] at hd
        rw [← hd] at himage
        exact absurd himage (by decide)
      | some m =>
        rw [himage, Option.map_some, Option.getD_some] at hd
        obtain ⟨run, hrun, hm⟩ := List.exists_of_findSome?_eq_some himage
        rcases image_of_mem_lowerRuns hrun hm with ⟨-, hne⟩ | ⟨-, rfl⟩
        · exact hne hd.symm
        · exact absurd hd (by decide)

theorem toNat_lt_of_lowerForm {c : Char} (hc : c ≠ '\u212A') (h : ∀ d ∈ lowerForm c, d.toNat < 128) : c.toNat < 128 := by
  unfold lowerForm at h
  dsimp only at h
  split at h
  · rename_i hascii
    exact hascii
  · split at h
    · exact absurd (h '\u0307' (by decide)) (by decide)
    · have hd := h _ (List.mem_singleton.mpr rfl)
      cases himage : lowerRuns.findSome? (·.image? c.toNat) with
      | none => rwa [himage, Option.map_none, Option.getD_none] at hd
      | some m =>
        rw [himage, Option.map_some, Option.getD_some] at hd
        obtain ⟨run, hrun, hm⟩ := List.exists_of_findSome?_eq_some himage
        rcases image_of_mem_lowerRuns hrun hm with ⟨hlarge, -⟩ | ⟨hcode, -⟩
        · exact absurd hd (Nat.not_lt.mpr hlarge)
        · refine absurd ?_ hc
          rw [← Char.ofNat_toNat c, hcode]

/-- A text in ASCII without a `k` is the lower case of a text just when the letters `A` to `Z` are all that has changed. -/
theorem lower_eq_iff {s t : Text} (ht : ∀ c ∈ t, c.toNat < 128 ∧ c ≠ 'k') : lower s = t ↔ asciiLower s = t := by
  constructor
  · intro h
    have hforms : lowerForms s = t := lowerForms_eq_of_lower_eq (fun c hc => (ht c hc).1) h
    have hascii : ∀ c ∈ s, c.toNat < 128 := by
      intro c hc
      have hmem : ∀ d ∈ lowerForm c, d ∈ t := fun d hd => hforms ▸ List.mem_flatMap.mpr ⟨c, hc, hd⟩
      apply toNat_lt_of_lowerForm
      · intro hkelvin
        have hk : 'k' ∈ lowerForm c := hkelvin ▸ by decide
        exact (ht 'k' (hmem 'k' hk)).2 rfl
      · exact fun d hd => (ht d (hmem d hd)).1
    rwa [lower_eq_map hascii] at h
  · intro h
    have hascii : ∀ c ∈ s, c.toNat < 128 := fun c hc =>
      toNat_lt_of_toLower rfl (ht c.toLower (h ▸ List.mem_map_of_mem hc)).1
    rw [lower_eq_map hascii]
    exact h

theorem exists_of_mem_lower {s : Text} {d : Char} (h : d ∈ lower s) (hsigma : d ≠ 'σ' ∧ d ≠ 'ς') : ∃ c ∈ s, d ∈ lowerForm c := by
  have hmem : plainSigma d ∈ (lowerForms s).map plainSigma := by
    rw [← map_plainSigma_lowerAfter false]
    exact List.mem_map_of_mem h
  obtain ⟨e, he, heq⟩ := List.mem_map.mp hmem
  rw [plainSigma, plainSigma, if_neg hsigma.2] at heq
  split at heq
  · exact absurd heq.symm hsigma.1
  · rw [← heq]
    exact List.mem_flatMap.mp he

/-- A text whose lower case comes to ASCII when it is taken twice comes to it at once. -/
theorem lower_lower {s : Text} (hascii : ∀ c ∈ lower (lower s), c.toNat < 128) : lower (lower s) = lower s := by
  have hforms : lowerForms (lower s) = lower (lower s) := lowerForms_eq_of_lower_eq hascii rfl
  have hsame : ∀ d ∈ lower s, lowerForm d = [d] := by
    intro d hd
    have hform : ∀ e ∈ lowerForm d, e.toNat < 128 := fun e he =>
      hascii e (hforms ▸ List.mem_flatMap.mpr ⟨d, hd, he⟩)
    have hsigma : d ≠ 'σ' ∧ d ≠ 'ς' := by
      constructor <;>
      · rintro rfl
        exact absurd hform (by decide)
    obtain ⟨c, -, hc⟩ := exists_of_mem_lower hd hsigma
    have hkelvin : d ≠ '\u212A' := by
      rintro rfl
      exact kelvin_notMem_lowerForm c hc
    have hsmall := toNat_lt_of_lowerForm hkelvin hform
    rcases toLower_of_mem_lowerForm hc hsmall with ⟨hcsmall, rfl⟩ | rfl | rfl
    · have hall := forall_ascii (p := fun e => lowerForm e.toLower == [e.toLower]) (by decide) hcsmall
      exact beq_iff_eq.mp hall
    · decide
    · decide
  exact hforms.symm.trans ((List.flatMap_congr hsame).trans (List.flatMap_singleton' _))

end Text

end UiToolkit
