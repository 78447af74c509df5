import UiToolkit.Proofs.Layers

/-!
# Parts of values in normal form

A part of a value has no term that the value did not have, provided that no guarded span is cut off in it: a span that loses its end guards nothing any more, and lays open the terms in it. The conversion of relative lengths ends no span that was begun.
-/

namespace UiToolkit

namespace Piece

open Declaration Text

/-- Recognizes where a span is begun that could be guarded. -/
def readOpening : Reader Unit := fun _ c cs => if opensSpan c cs then some (0, ()) else none

/-- Every call and every quoted string that is begun is ended. -/
def ClosesSpans (s : Text) : Prop := HasNoTerm readOpening none s

def isTerm {α : Type} : Piece α → Bool
  | .term _ _ => true
  | _ => false

instance (s : Text) : Decidable (ClosesSpans s) :=
  decidable_of_iff ((scan readOpening s).all (!·.isTerm) = true) (by
    rw [List.all_eq_true]
    refine ⟨fun h text meaning hterm => absurd (h _ hterm) (by simp [isTerm]), fun h p hp => ?_⟩
    cases p with
    | term text meaning => exact absurd hp (h text meaning)
    | guarded span => rfl
    | plain c => rfl)

theorem readOpening_eq_none {before : Option Char} {c : Char} {cs : Text} :
    readOpening before c cs = none ↔ opensSpan c cs = false := by
  unfold readOpening
  split
  · rename_i h
    simp [h]
  · rename_i h
    simpa using h

theorem hasNoTerm_congr {α : Type} {read : Reader α} {before before' : Option Char} {s : Text}
    (hread : ∀ c cs, read before c cs = none → read before' c cs = none) (h : HasNoTerm read before s) :
    HasNoTerm read before' s := by
  cases s with
  | nil => exact hasNoTerm_nil read before'
  | cons c cs =>
    cases hguarded : guardedExtent? c cs with
    | some n => exact (hasNoTerm_guarded hguarded).mpr ((hasNoTerm_guarded hguarded).mp h)
    | none =>
      obtain ⟨hnone, hrest⟩ := (hasNoTerm_plain hguarded).mp h
      exact (hasNoTerm_plain hguarded).mpr ⟨hread c cs hnone, hrest⟩

theorem hasNoTerm_readOpening {before before' : Option Char} {s : Text} (h : HasNoTerm readOpening before s) :
    HasNoTerm readOpening before' s :=
  hasNoTerm_congr (fun _ _ hnone => readOpening_eq_none.mpr (readOpening_eq_none.mp hnone)) h

/-! ### Parts -/

/-- The characters that a part ends before. -/
def endsPart (c : Char) : Bool := isBlank c || c == ','

/-- A text that stands in another between blanks and a comma, or at its ends. -/
def IsPart (part s : Text) : Prop :=
  ∃ front rest, s = front ++ (part ++ rest) ∧ (∀ c ∈ front, isBlank c = true) ∧ ∀ c ∈ rest.head?, endsPart c = true

theorem not_isLetterAnyCase_of_endsPart {letter c : Char} (hletter : letter ∈ "url(resource(".toList) (hc : endsPart c = true) :
    isLetterAnyCase letter c = false := by
  rcases Bool.or_eq_true_iff.mp hc with hblank | hcomma
  · have hall := forall_blank (p := fun d => "url(resource(".toList.all fun letter => !isLetterAnyCase letter d)
      (by decide) hblank
    simpa using List.all_eq_true.mp hall letter hletter
  · have hall : ∀ letter ∈ "url(resource(".toList, isLetterAnyCase letter ',' = false := by decide
    rw [beq_iff_eq.mp hcomma]
    exact hall letter hletter

theorem startsWithAnyCase_of_append {word s rest : Text}
    (hrest : ∀ c ∈ rest.head?, ∀ letter ∈ word, isLetterAnyCase letter c = false)
    (h : startsWithAnyCase word (s ++ rest) = true) : startsWithAnyCase word s = true := by
  induction word generalizing s with
  | nil => rfl
  | cons letter word ih =>
    cases s with
    | nil =>
      cases rest with
      | nil => cases h
      | cons c rest =>
        have hc := (Bool.and_eq_true_iff.mp h).1
        rw [hrest c rfl letter List.mem_cons_self] at hc
        cases hc
    | cons c s =>
      obtain ⟨hc, htail⟩ := Bool.and_eq_true_iff.mp h
      exact Bool.and_eq_true_iff.mpr ⟨hc, ih (fun d hd l hl => hrest d hd l (List.mem_cons_of_mem _ hl)) htail⟩

/-- No span begins at the end of a part that does not begin in it. -/
theorem opensSpan_append {c : Char} {cs rest : Text} (hrest : ∀ d ∈ rest.head?, endsPart d = true)
    (h : opensSpan c cs = false) : opensSpan c (cs ++ rest) = false := by
  simp only [opensSpan, Bool.or_eq_false_iff] at h ⊢
  obtain ⟨⟨hquotes, hurl⟩, hresource⟩ := h
  have hletters : ∀ word : Text, (∀ letter ∈ word, letter ∈ "url(resource(".toList) →
      ∀ d ∈ rest.head?, ∀ letter ∈ word, isLetterAnyCase letter d = false :=
    fun word hword d hd letter hletter => not_isLetterAnyCase_of_endsPart (hword letter hletter) (hrest d hd)
  refine ⟨⟨hquotes, Bool.eq_false_iff.mpr fun hstarts => ?_⟩, Bool.eq_false_iff.mpr fun hstarts => ?_⟩
  · rw [← List.cons_append] at hstarts
    rw [startsWithAnyCase_of_append (hletters _ (by decide)) hstarts] at hurl
    cases hurl
  · rw [← List.cons_append] at hstarts
    rw [startsWithAnyCase_of_append (hletters _ (by decide)) hstarts] at hresource
    cases hresource

theorem hasNoTerm_of_append {read : Reader Unit} {rest : Text} (hrest : ∀ d ∈ rest.head?, endsPart d = true)
    (hread : ∀ b c cs, read b c (cs ++ rest) = none → read b c cs = none) {before : Option Char} {s : Text}
    (hcloses : HasNoTerm readOpening before s) (h : HasNoTerm read before (s ++ rest)) : HasNoTerm read before s := by
  induction before, s using ofText.induct readOpening with
  | case1 before => exact hasNoTerm_nil read before
  | case2 before c cs n hextent ih =>
    have hlength := guardedExtent?_le_length hextent
    rw [hasNoTerm_guarded hextent] at hcloses ⊢
    have hextent' : guardedExtent? c (cs ++ rest) = some n := by
      have := guardedExtent?_append hextent (cs.drop n ++ rest)
      rwa [← List.append_assoc, List.take_append_drop] at this
    rw [List.cons_append, hasNoTerm_guarded hextent', List.take_append_of_le_length hlength,
      List.drop_append_of_le_length hlength] at h
    exact ih hcloses h
  | case3 before c cs hextent n meaning hopening ih =>
    rw [hasNoTerm_plain hextent, hopening] at hcloses
    cases hcloses.1
  | case4 before c cs hextent hopening ih =>
    rw [hasNoTerm_plain hextent] at hcloses ⊢
    have hnone := guardedExtent?_of_opensSpan (opensSpan_append hrest (readOpening_eq_none.mp hopening))
    rw [List.cons_append, hasNoTerm_plain hnone] at h
    exact ⟨hread before c cs h.1, ih hcloses.2 h.2⟩

theorem neverGuards_of_isBlank {c : Char} (hc : isBlank c = true) : neverGuards c = true :=
  forall_blank (by decide) hc

theorem hasNoTerm_of_isPart {read : Reader Unit} {part s : Text} (hpart : IsPart part s) (hcloses : ClosesSpans part)
    (hblank : ∀ b c cs, isBlank b = true → read (some b) c cs = none → read none c cs = none)
    (hread : ∀ b c cs rest, (∀ d ∈ rest.head?, endsPart d = true) → read b c (cs ++ rest) = none → read b c cs = none)
    (h : HasNoTerm read none s) : HasNoTerm read none part := by
  obtain ⟨front, rest, rfl, hfront, hrest⟩ := hpart
  have hdrop : HasNoTerm read (front.getLast?.or none) (part ++ rest) :=
    hasNoTerm_drop (fun x c y hsplit => guardedExtent?_eq_none (neverGuards_of_isBlank (hfront c (by simp [hsplit]))) _) h
  refine hasNoTerm_of_append hrest (fun b c cs => hread b c cs rest hrest) hcloses (hasNoTerm_congr (fun c cs => ?_) hdrop)
  cases hlast : front.getLast? with
  | none => exact id
  | some b => exact hblank b c cs (hfront b (List.mem_of_getLast? hlast))

end Piece

/-! ### Spans in converted text -/

namespace Text

/-- The letters of the guarded calls, with the bracket after their names. -/
def guardLetters : Text := "url(resource("

/-- Whether the words differ before the end of one of them. -/
def clash : Text → Text → Bool
  | a :: as, b :: bs => a != b || clash as bs
  | _, _ => false

theorem toLower_of_guardLetter {letter c : Char} (hletter : letter ∈ guardLetters) (hlong : c ≠ 'ſ')
    (h : isLetterAnyCase letter c = true) : c.toLower = letter := by
  have hne : ∀ l ∈ guardLetters, (l == 'i') = false ∧ (l == 'k') = false := by decide
  obtain ⟨hi, hk⟩ := hne letter hletter
  simpa [isLetterAnyCase, hi, hk, hlong] using h

theorem guardLetter_unique {a b c : Char} (ha : a ∈ guardLetters) (hb : b ∈ guardLetters) (hac : isLetterAnyCase a c = true)
    (hbc : isLetterAnyCase b c = true) : a = b := by
  by_cases hlong : c = 'ſ'
  · subst hlong
    have hall : ∀ a ∈ guardLetters, ∀ b ∈ guardLetters, isLetterAnyCase a 'ſ' = true → isLetterAnyCase b 'ſ' = true → a = b := by
      decide
    exact hall a ha b hb hac hbc
  · exact (toLower_of_guardLetter ha hlong hac).symm.trans (toLower_of_guardLetter hb hlong hbc)

theorem not_startsWithAnyCase_of_clash {u v s : Text} (hu : ∀ c ∈ u, c ∈ guardLetters) (hv : ∀ c ∈ v, c ∈ guardLetters)
    (hclash : clash u v = true) (h : startsWithAnyCase u s = true) : startsWithAnyCase v s = false := by
  induction u generalizing v s with
  | nil => cases hclash
  | cons a u ih =>
    cases v with
    | nil => cases hclash
    | cons b v =>
      cases s with
      | nil => rfl
      | cons c s =>
        obtain ⟨ha, hu⟩ := List.forall_mem_cons.mp hu
        obtain ⟨hb, hv⟩ := List.forall_mem_cons.mp hv
        obtain ⟨hac, htail⟩ := Bool.and_eq_true_iff.mp h
        rw [startsWithAnyCase, Bool.and_eq_false_iff]
        rcases Bool.or_eq_true_iff.mp hclash with hne | hclash
        · exact .inl (Bool.eq_false_iff.mpr fun hbc => bne_iff_ne.mp hne (guardLetter_unique ha hb hac hbc))
        · exact .inr (ih hu hv hclash htail)

end Text

namespace Pixels

open Declaration Piece Text

/-- Whether the word and all of its ends are no beginnings of a guarded call, letters before the last character. -/
def isCallEnd : Text → Bool
  | [] => true
  | letter :: word =>
    guardLetters.contains letter && (word.isEmpty || letter != '(') &&
      clash (letter :: word) ("url".toList ++ ['(']) && clash (letter :: word) ("resource".toList ++ ['(']) && isCallEnd word

theorem continuesTerm_of_guardLetter {letter c : Char} (hletter : letter ∈ guardLetters) (hne : letter ≠ '(')
    (h : isLetterAnyCase letter c = true) : continuesTerm c = true := by
  by_cases hlong : c = 'ſ'
  · subst hlong
    decide
  · have hlower := toLower_of_guardLetter hletter hlong h
    have hsmall : ∀ l ∈ guardLetters, l.toNat < 128 := by decide
    have hall := forall_ascii (p := fun d => !guardLetters.contains d.toLower || d.toLower == '(' || continuesTerm d) (by decide)
      (toNat_lt_of_toLower rfl (hlower ▸ hsmall letter hletter))
    simpa [hlower, hletter, hne] using hall

theorem opensSpan_of_isCallEnd {letter c : Char} {word cs : Text} (hword : isCallEnd (letter :: word) = true)
    (h : startsWithAnyCase (letter :: word) (c :: cs) = true) : opensSpan c cs = false := by
  have hletters : ∀ w : Text, isCallEnd w = true → ∀ l ∈ w, l ∈ guardLetters := by
    intro w hw
    induction w with
    | nil => simp
    | cons l w ih =>
      simp only [isCallEnd, Bool.and_eq_true] at hw
      exact List.forall_mem_cons.mpr ⟨List.contains_iff_mem.mp hw.1.1.1.1, ih hw.2⟩
  have hall := hletters _ hword
  simp only [isCallEnd, Bool.and_eq_true] at hword
  have hquote : ∀ quote ∈ "\"'".toList, (c == quote) = false := by
    intro quote hquote
    refine beq_false_of_ne ?_
    rintro rfl
    have hnone : ∀ l ∈ guardLetters, ∀ quote ∈ "\"'".toList, isLetterAnyCase l quote = false := by decide
    have hc := (Bool.and_eq_true_iff.mp h).1
    rw [hnone letter (hall letter List.mem_cons_self) c hquote] at hc
    cases hc
  rw [opensSpan, hquote '"' (by decide), hquote '\'' (by decide),
    not_startsWithAnyCase_of_clash hall (by decide) hword.1.1.2 h, not_startsWithAnyCase_of_clash hall (by decide) hword.1.2 h]
  rfl

/-- What the name of a guarded call goes on with stays where it is. -/
theorem startsWithAnyCase_rewrite {word : Text} (hword : isCallEnd word = true) {c : Char}
    (hc : word ≠ [] → continuesTerm c = true) {cs : Text} (h : startsWithAnyCase word cs = true) :
    startsWithAnyCase word (rewrite emText (ofText readEm (some c) cs)) = true := by
  induction word generalizing c cs with
  | nil => rfl
  | cons letter word ih =>
    cases cs with
    | nil => cases h
    | cons d cs =>
      have hguarded := guardedExtent?_of_opensSpan (opensSpan_of_isCallEnd hword h)
      have hread : readEm (some c) d cs = none := Value.blocks_em (hc (List.cons_ne_nil _ _)) d cs
      rw [ofText_plain hguarded hread, rewrite_plain]
      simp only [isCallEnd, Bool.and_eq_true, Bool.or_eq_true, List.contains_iff_mem, bne_iff_ne] at hword
      obtain ⟨hd, htail⟩ := Bool.and_eq_true_iff.mp h
      refine Bool.and_eq_true_iff.mpr ⟨hd, ih hword.2 (fun hne => ?_) htail⟩
      have hletter : letter ≠ '(' := hword.1.1.1.2.resolve_left (by simpa using hne)
      exact continuesTerm_of_guardLetter hword.1.1.1.1 hletter hd

theorem opensSpan_of_rewrite {c : Char} {cs : Text}
    (h : opensSpan c (rewrite emText (ofText readEm (some c) cs)) = false) : opensSpan c cs = false := by
  have hcall : ∀ (letter : Char) (word : Text), letter ∈ guardLetters → letter ≠ '(' → isCallEnd word = true →
      startsWithAnyCase (letter :: word) (c :: rewrite emText (ofText readEm (some c) cs)) = false →
        startsWithAnyCase (letter :: word) (c :: cs) = false := by
    intro letter word hletter hne hword hnone
    refine Bool.eq_false_iff.mpr fun hstarts => ?_
    obtain ⟨hc, htail⟩ := Bool.and_eq_true_iff.mp hstarts
    rw [startsWithAnyCase, hc,
      startsWithAnyCase_rewrite hword (fun _ => continuesTerm_of_guardLetter hletter hne hc) htail] at hnone
    cases hnone
  simp only [opensSpan, Bool.or_eq_false_iff] at h ⊢
  exact ⟨⟨h.1.1, hcall 'u' "rl(" (by decide) (by decide) (by decide) h.1.2⟩,
    hcall 'r' "esource(" (by decide) (by decide) (by decide) h.2⟩

/-- A span that is begun and not ended is still so in the converted text. -/
theorem hasNoTerm_of_rewrite {before shown : Option Char} {s : Text}
    (h : HasNoTerm readOpening shown (rewrite emText (ofText readEm before s))) : HasNoTerm readOpening shown s := by
  induction before, s using ofText.induct readEm generalizing shown with
  | case1 before => exact hasNoTerm_nil readOpening shown
  | case2 before c cs n hextent ih =>
    have hlength := guardedExtent?_le_length hextent
    rw [ofText_guarded hextent, rewrite_guarded, List.cons_append, hasNoTerm_guarded (guardedExtent?_append hextent _),
      List.drop_append_of_le_length (by simp [hlength]), List.drop_take_self, List.nil_append] at h
    exact (hasNoTerm_guarded hextent).mpr (hasNoTerm_readOpening (ih h))
  | case3 before c cs hextent n numeral hread ih =>
    simp only [ofText_term hextent hread, rewrite_term] at h
    have hrest := hasNoTerm_drop (fun x d y hsplit =>
      guardedExtent?_eq_none (neverGuards_of_isInert (isInert_of_mem_emText (by rw [hsplit]; simp))) _) h
    have hopens := opensSpan_of_readEm hread
    rw [← List.take_append_drop n cs, ← List.cons_append]
    exact hasNoTerm_append (fun x d y hsplit => guardedExtent?_of_opensSpan (hopens x d y hsplit))
      (fun x d y hsplit => readOpening_eq_none.mpr (hopens x d y hsplit)) (hasNoTerm_readOpening (ih hrest))
  | case4 before c cs hextent hread ih =>
    simp only [ofText_plain hextent hread, rewrite_plain] at h
    have hnone : guardedExtent? c (rewrite emText (ofText readEm (some c) cs)) = none :=
      guardedExtent?_of_recast (recast_rewrite _ _ (isOrdinary_of_mem_ofText _ cs)) hextent
    obtain ⟨hopening, hrest⟩ := (hasNoTerm_plain hnone).mp h
    exact (hasNoTerm_plain hextent).mpr
      ⟨readOpening_eq_none.mpr (opensSpan_of_rewrite (readOpening_eq_none.mp hopening)), ih hrest⟩

theorem closesSpans_of_convertEms {s text : Text} (h : convertEms s = .ok text) (htext : ClosesSpans text) : ClosesSpans s := by
  obtain ⟨rfl, -⟩ := eq_rewrite_of_convertEms h
  exact hasNoTerm_of_rewrite htext

end Pixels

/-! ### First layers and first words -/

namespace Value

open Declaration Piece Text

theorem endsWord_append {s rest : Text} (hrest : ∀ d ∈ rest.head?, endsPart d = true) (h : Pixels.endsWord s = true) :
    Pixels.endsWord (s ++ rest) = true := by
  cases s with
  | cons c s => exact h
  | nil =>
    cases rest with
    | nil => rfl
    | cons d rest =>
      have hd : isWordChar d = false := by
        rcases Bool.or_eq_true_iff.mp (hrest d rfl) with hblank | hcomma
        · exact isWordChar_of_isBlank hblank
        · rw [beq_iff_eq.mp hcomma]
          decide
      simp [Pixels.endsWord, hd]

/-- A part of a normalized text is normalized, if no span is cut off in it. -/
theorem normalize_of_isPart {part s : Text} (hpart : IsPart part s) (hcloses : ClosesSpans part) (h : normalize s = s) :
    normalize part = part := by
  have hterms := hasNoTerm_normalize s
  rw [h] at hterms
  refine normalize_of_hasNoTerm (hasNoTerm_of_isPart hpart hcloses ?_ ?_ hterms.1)
    (hasNoTerm_of_isPart hpart hcloses ?_ ?_ hterms.2)
  · intro b c cs hb hnone
    simpa [readLeadingPoint, opensNumber, hb] using hnone
  · intro b c cs rest _ hnone
    refine Option.eq_none_iff_forall_ne_some.mpr fun found hfound => ?_
    obtain ⟨n, ⟨⟩⟩ := found
    obtain ⟨rfl, rfl, hbefore, hdigit⟩ := readLeadingPoint_eq_some hfound
    cases cs with
    | nil => cases hdigit
    | cons d cs => simp [readLeadingPoint, hbefore, show isDecimal d = true from hdigit] at hnone
  · intro b c cs _ _
    cases cs <;> simp [readViewport]
  · intro b c cs rest hrest hnone
    refine Option.eq_none_iff_forall_ne_some.mpr fun found hfound => ?_
    obtain ⟨n, ⟨⟩⟩ := found
    obtain ⟨rfl, hbefore, hc, d, tail, rfl, hd, hends⟩ := readViewport_eq_some hfound
    simp [readViewport, hbefore, hc, hd, endsWord_append hrest hends] at hnone

theorem isPart_firstLayer (s : Text) : IsPart (trim (firstTopLevel ',' s)) s := by
  obtain ⟨rest, hs, hrest⟩ := exists_eq_firstFrom_append ',' Nesting.top s
  rw [← firstTopLevel_eq] at hs
  obtain ⟨blanks, hblanks, hall⟩ := exists_eq_dropEndWhile_append isBlank ((firstTopLevel ',' s).dropWhile isBlank)
  refine ⟨(firstTopLevel ',' s).takeWhile isBlank, blanks ++ rest, ?_, fun c hc => List.mem_takeWhile_imp hc, fun c hc => ?_⟩
  · rw [trim, trimWhile, ← List.append_assoc (dropEndWhile _ _), ← hblanks, ← List.append_assoc, List.takeWhile_append_dropWhile, ← hs]
  · cases blanks with
    | nil => simp [endsPart, hrest c hc]
    | cons b blanks =>
      rw [← Option.some.inj hc]
      simp [endsPart, hall b List.mem_cons_self]

/-- The first layer is its own first layer, and so is what it is converted to. -/
theorem firstLayer_convertEms {s text : Text} (h : Pixels.convertEms (trim (firstTopLevel ',' s)) = .ok text)
    (htrim : trim text = text) : trim (firstTopLevel ',' text) = text := by
  have hwhole : IsWhole ',' Nesting.top (trim (firstTopLevel ',' s)) := by
    rw [firstTopLevel_eq]
    exact isWhole_trim (isWhole_firstFrom ',' Nesting.top s)
  rw [firstTopLevel_of_isWhole (Pixels.isWhole_convertEms h hwhole), htrim]

theorem exists_words_eq_cons {c : Char} (hc : isBlank c = false) (cs : Text) :
    ∃ more, words (c :: cs) = (c :: cs).takeWhile (!isBlank ·) :: more := by
  obtain ⟨pieces, hpieces⟩ := cut_eq_cons isBlank (c :: cs)
  refine ⟨pieces.filter (!·.isEmpty), ?_⟩
  rw [words, hpieces, List.filter_cons_of_pos]
  simp [hc]

theorem words_dropWhile (s : Text) : words (s.dropWhile isBlank) = words s := by
  induction s with
  | nil => rfl
  | cons c cs ih =>
    rw [List.dropWhile_cons]
    split
    · rename_i hc
      rw [ih, words, words, cut, if_pos hc, List.filter_cons_of_neg (by simp)]
    · rfl

theorem firstWord_eq {s : Text} (h : isBlankText s = false) :
    firstWord s = (s.dropWhile isBlank).takeWhile (!isBlank ·) := by
  cases hdrop : s.dropWhile isBlank with
  | nil =>
    have hall := List.dropWhile_eq_nil_iff.mp hdrop
    rw [isBlankText, List.all_eq_true.mpr hall] at h
    cases h
  | cons c cs =>
    have hc : isBlank c = false := not_of_mem_head?_dropWhile (s := s) (by rw [hdrop]; rfl)
    obtain ⟨more, hmore⟩ := exists_words_eq_cons hc cs
    rw [firstWord, ← words_dropWhile, hdrop, hmore]
    rfl

theorem isPart_firstWord {s : Text} (h : isBlankText s = false) : IsPart (firstWord s) s := by
  rw [firstWord_eq h]
  refine ⟨s.takeWhile isBlank, (s.dropWhile isBlank).dropWhile (!isBlank ·), ?_, fun c hc => List.mem_takeWhile_imp hc,
    fun c hc => ?_⟩
  · rw [List.takeWhile_append_dropWhile, List.takeWhile_append_dropWhile]
  · have hblank := not_of_mem_head?_dropWhile hc
    rw [Bool.not_eq_false'] at hblank
    simp [endsPart, hblank]

theorem firstWord_of_no_blank {s : Text} (hne : isBlankText s = false) (h : ∀ c ∈ s, isBlank c = false) : firstWord s = s := by
  have hdrop : s.dropWhile isBlank = s := by
    cases s with
    | nil => rfl
    | cons c cs => rw [List.dropWhile_cons, h c List.mem_cons_self, if_neg Bool.false_ne_true]
  rw [firstWord_eq hne, hdrop, List.takeWhile_eq_self_iff.mpr fun c hc => by simp [h c hc]]

theorem not_isBlank_of_mem_firstWord {s : Text} (h : isBlankText s = false) {c : Char} (hc : c ∈ firstWord s) :
    isBlank c = false := by
  rw [firstWord_eq h] at hc
  simpa using List.mem_takeWhile_imp hc

/-! ### Gradients -/

theorem hasGradient_of_append {front s : Text} (h : hasGradient s = true) : hasGradient (front ++ s) = true := by
  induction front with
  | nil => exact h
  | cons c front ih => exact Bool.or_eq_true_iff.mpr (.inr ih)

/-- Whether an opening bracket is the first character that is not blank. -/
def opensArguments (s : Text) : Bool := (s.dropWhile isBlank).head? == some '('

theorem opensArguments_append {s : Text} (h : opensArguments s = true) (rest : Text) : opensArguments (s ++ rest) = true := by
  induction s with
  | nil => cases h
  | cons c cs ih =>
    rw [opensArguments, List.dropWhile_cons] at h
    rw [List.cons_append, opensArguments, List.dropWhile_cons]
    split
    · rename_i hc
      rw [if_pos hc] at h
      exact ih h
    · rename_i hc
      rwa [if_neg hc] at h

theorem opensArguments_of_recast {s t : Text} (h : Recast s t) (ht : opensArguments t = true) : opensArguments s = true := by
  induction h with
  | nil => cases ht
  | same c _ ih =>
    rw [opensArguments, List.dropWhile_cons] at ht ⊢
    split
    · rename_i hc
      rw [if_pos hc] at ht
      exact ih ht
    · rename_i hc
      rwa [if_neg hc] at ht
  | run _ hv _ _ =>
    obtain ⟨c, v, rfl, hc⟩ := hv.exists_cons
    have hblank : isBlank c = false := by
      simp only [isInert, Bool.and_eq_true, Bool.not_eq_true'] at hc
      exact hc.1.2
    rw [opensArguments, List.cons_append, List.dropWhile_cons, if_neg (by rw [hblank]; exact Bool.false_ne_true)] at ht
    have hopens : c = '(' := by simpa using ht
    exact absurd (isOrdinary_of_isInert hc) (by rw [hopens]; decide)

theorem hasGradient_cons (c : Char) (cs : Text) :
    hasGradient (c :: cs) =
      ((startsWithAnyCase "gradient" (c :: cs) && opensArguments ((c :: cs).drop 8)) || hasGradient cs) := rfl

theorem hasGradient_append {s : Text} (h : hasGradient s = true) (rest : Text) : hasGradient (s ++ rest) = true := by
  induction s with
  | nil => cases h
  | cons c cs ih =>
    rw [hasGradient_cons] at h
    rw [List.cons_append, hasGradient_cons, Bool.or_eq_true]
    rcases Bool.or_eq_true_iff.mp h with hhere | hlater
    · obtain ⟨hstarts, hopens⟩ := Bool.and_eq_true_iff.mp hhere
      have hlength : 8 ≤ (c :: cs).length := length_le_of_startsWithAnyCase hstarts
      have hstarts' := startsWithAnyCase_append hstarts (length_le_of_startsWithAnyCase hstarts) rest
      rw [List.take_length] at hstarts'
      rw [← List.cons_append, List.drop_append_of_le_length hlength, opensArguments_append hopens, Bool.and_true]
      exact .inl hstarts'
    · exact .inr (ih hlater)

/-- A gradient in a part is one in the whole text. -/
theorem hasGradient_of_isPart {part s : Text} (hpart : IsPart part s) (h : hasGradient part = true) : hasGradient s = true := by
  obtain ⟨front, rest, rfl, -, -⟩ := hpart
  exact hasGradient_of_append (hasGradient_append h rest)

theorem hasGradient_of_inert {run s : Text} (hinert : ∀ c ∈ run, isInert c = true) (h : hasGradient (run ++ s) = true) :
    hasGradient s = true := by
  induction run with
  | nil => exact h
  | cons c run ih =>
    obtain ⟨hc, hinert⟩ := List.forall_mem_cons.mp hinert
    have hletter : isLetterAnyCase 'g' c = false := by
      simpa using List.all_eq_true.mp (Bool.and_eq_true_iff.mp hc).2 'g' (by decide)
    have hstarts : startsWithAnyCase "gradient" (c :: (run ++ s)) = false := by
      rw [show "gradient".toList = 'g' :: "radient".toList from rfl, startsWithAnyCase, hletter, Bool.false_and]
    rw [List.cons_append, hasGradient_cons, hstarts, Bool.false_and, Bool.false_or] at h
    exact ih hinert h

theorem hasGradient_of_recast {s t : Text} (h : Recast s t) (ht : hasGradient t = true) : hasGradient s = true := by
  induction h with
  | nil => cases ht
  | same c hrest ih =>
    rw [hasGradient_cons, Bool.or_eq_true] at ht ⊢
    rcases ht with hhere | hlater
    · obtain ⟨hstarts, hopens⟩ := Bool.and_eq_true_iff.mp hhere
      obtain ⟨hstarts', hdrop⟩ := Recast.startsWithAnyCase (by decide) (.same c hrest) hstarts
      exact .inl (Bool.and_eq_true_iff.mpr ⟨hstarts', opensArguments_of_recast hdrop hopens⟩)
    · exact .inr (ih hlater)
  | run _ hv _ ih => exact hasGradient_of_append (ih (hasGradient_of_inert hv.all ht))

end Value

end UiToolkit
