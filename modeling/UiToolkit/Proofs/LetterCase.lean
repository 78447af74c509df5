import UiToolkit.Proofs.MaximalSegments
import UiToolkit.Proofs.Neighbours

/-!
# Letter case of selectors

No step from a selector to its verdict tells a capital of ASCII from its lower case: the scan asks for classes of characters that hold both, and all that is looked up is looked up in lower case. So a selector in lower case has the segments in lower case, is refused for the same reason or accepted as well, and comes to the same text in lower case.
-/

namespace UiToolkit

open Text

namespace Text

/-! ### Characters -/

/-- The function does not tell a capital of ASCII from its lower case. -/
def IgnoresCase {α : Type} (f : Char → α) : Prop := ∀ c, f c.toLower = f c

/-- The code points of the capitals. -/
def capitalCodes : List Nat := List.range' 65 26

theorem toLower_cases (c : Char) : c.toLower = c ∨ c.toNat ∈ capitalCodes := by
  unfold Char.toLower
  split
  · rename_i hc
    have hle : 65 ≤ c.toNat ∧ c.toNat ≤ 90 := hc
    exact .inr (List.mem_range'_1.mpr (by omega))
  · exact .inl rfl

theorem ignoresCase_of_capitals {α : Type} [DecidableEq α] {f : Char → α}
    (h : (capitalCodes.all fun n => f (Char.ofNat n).toLower == f (Char.ofNat n)) = true) : IgnoresCase f := by
  intro c
  rcases toLower_cases c with hsame | hcapital
  · rw [hsame]
  · have hc := beq_iff_eq.mp (List.all_eq_true.mp h _ hcapital)
    rwa [Char.ofNat_toNat] at hc

theorem ignoresCase_toLower : IgnoresCase Char.toLower := ignoresCase_of_capitals (by decide)

theorem ignoresCase_isBlank : IgnoresCase isBlank := ignoresCase_of_capitals (by decide)

theorem ignoresCase_isDigit : IgnoresCase isDigit := ignoresCase_of_capitals (by decide)

theorem ignoresCase_isAlphanumeric : IgnoresCase isAlphanumeric := ignoresCase_of_capitals (by decide)

theorem ignoresCase_lowerForm : IgnoresCase lowerForm := ignoresCase_of_capitals (by decide)

theorem ignoresCase_isCased : IgnoresCase isCased := ignoresCase_of_capitals (by decide)

theorem ignoresCase_isCaseIgnorable : IgnoresCase isCaseIgnorable := ignoresCase_of_capitals (by decide)

theorem ignoresCase_isQuote : IgnoresCase Nesting.isQuote := ignoresCase_of_capitals (by decide)

theorem toLower_beq {d : Char} (hd : d.isAlpha = false) (c : Char) : (c.toLower == d) = (c == d) := by
  rcases toLower_cases c with hsame | hcapital
  · rw [hsame]
  · have hletters : ∀ n ∈ capitalCodes, (Char.ofNat n).isAlpha = true ∧ (Char.ofNat n).toLower.isAlpha = true := by decide
    obtain ⟨hupper, hlower⟩ := hletters _ hcapital
    rw [Char.ofNat_toNat] at hupper hlower
    have hne : ∀ e : Char, e.isAlpha = true → (e == d) = false := fun e he =>
      beq_false_of_ne fun heq => Bool.false_ne_true (hd.symm.trans (heq ▸ he))
    rw [hne _ hlower, hne _ hupper]

theorem toLower_eq_iff {d : Char} (hd : d.isAlpha = false) {c : Char} : c.toLower = d ↔ c = d := by
  rw [← beq_iff_eq, toLower_beq hd, beq_iff_eq]

/-! ### Texts -/

theorem asciiLower_cons (c : Char) (s : Text) : asciiLower (c :: s) = c.toLower :: asciiLower s := rfl

theorem asciiLower_append (s t : Text) : asciiLower (s ++ t) = asciiLower s ++ asciiLower t := List.map_append

theorem asciiLower_asciiLower (s : Text) : asciiLower (asciiLower s) = asciiLower s := by
  rw [asciiLower, asciiLower, List.map_map]
  exact List.map_congr_left fun c _ => ignoresCase_toLower c

theorem length_asciiLower (s : Text) : (asciiLower s).length = s.length := List.length_map _

theorem isEmpty_asciiLower (s : Text) : (asciiLower s).isEmpty = s.isEmpty := List.isEmpty_map

theorem drop_asciiLower (n : Nat) (s : Text) : (asciiLower s).drop n = asciiLower (s.drop n) := List.map_drop.symm

theorem take_asciiLower (n : Nat) (s : Text) : (asciiLower s).take n = asciiLower (s.take n) := List.map_take.symm

section

variable {p : Char → Bool} (hp : IgnoresCase p)
include hp

theorem takeWhile_asciiLower (s : Text) : (asciiLower s).takeWhile p = asciiLower (s.takeWhile p) := by
  rw [asciiLower, List.takeWhile_map, show p ∘ Char.toLower = p from funext hp]
  rfl

theorem dropWhile_asciiLower (s : Text) : (asciiLower s).dropWhile p = asciiLower (s.dropWhile p) := by
  rw [asciiLower, List.dropWhile_map, show p ∘ Char.toLower = p from funext hp]
  rfl

theorem trimWhile_asciiLower (s : Text) : trimWhile p (asciiLower s) = asciiLower (trimWhile p s) := by
  have hreverse : ∀ t : Text, (asciiLower t).reverse = asciiLower t.reverse := fun t => List.map_reverse.symm
  rw [trimWhile, trimWhile, dropEndWhile, dropEndWhile, dropWhile_asciiLower hp, hreverse, dropWhile_asciiLower hp, hreverse]

theorem cut_asciiLower (s : Text) : cut p (asciiLower s) = (cut p s).map asciiLower := by
  induction s with
  | nil => rfl
  | cons c s ih =>
    rw [asciiLower_cons, cut, cut, hp c, ih]
    split
    · rfl
    · cases cut p s <;> rfl

end

theorem trim_asciiLower (s : Text) : trim (asciiLower s) = asciiLower (trim s) := trimWhile_asciiLower ignoresCase_isBlank s

theorem words_asciiLower (s : Text) : words (asciiLower s) = (words s).map asciiLower := by
  rw [words, words, cut_asciiLower ignoresCase_isBlank, List.filter_map]
  congr 2
  funext piece
  rw [Function.comp_apply, isEmpty_asciiLower]

theorem startsCased_asciiLower (s : Text) : startsCased (asciiLower s) = startsCased s := by
  rw [startsCased, startsCased, dropWhile_asciiLower ignoresCase_isCaseIgnorable]
  cases s.dropWhile isCaseIgnorable with
  | nil => rfl
  | cons c cs => exact ignoresCase_isCased c

theorem lowerAfter_asciiLower (afterCased : Bool) (s : Text) : lowerAfter afterCased (asciiLower s) = lowerAfter afterCased s := by
  induction s generalizing afterCased with
  | nil => rfl
  | cons c s ih =>
    have hsigma : (c.toLower == 'Σ') = (c == 'Σ') := toLower_beq (by decide) c
    rw [asciiLower_cons, lowerAfter, lowerAfter, hsigma, startsCased_asciiLower, ignoresCase_lowerForm c,
      ignoresCase_isCaseIgnorable c, ignoresCase_isCased c, ih]

/-- Full lower case does not see whether the letters of ASCII were in lower case before. -/
theorem lower_asciiLower (s : Text) : lower (asciiLower s) = lower s := lowerAfter_asciiLower false s

theorem isLetterAnyCase_toLower (letter : Char) : IgnoresCase (isLetterAnyCase letter) := by
  intro c
  rw [isLetterAnyCase, isLetterAnyCase, ignoresCase_toLower c, toLower_beq (d := 'ı') (by decide),
    toLower_beq (d := 'İ') (by decide), toLower_beq (d := 'ſ') (by decide), toLower_beq (d := '\u212A') (by decide)]

theorem startsWithAnyCase_asciiLower (word s : Text) : startsWithAnyCase word (asciiLower s) = startsWithAnyCase word s := by
  induction word generalizing s with
  | nil => rfl
  | cons letter word ih =>
    cases s with
    | nil => rfl
    | cons c s => rw [asciiLower_cons, startsWithAnyCase, startsWithAnyCase, isLetterAnyCase_toLower letter c, ih]

end Text

namespace Segment

/-! ### The scan -/

theorem ignoresCase_isNameChar : IgnoresCase isNameChar := by
  intro c
  rw [isNameChar, isNameChar, ignoresCase_isAlphanumeric c, toLower_beq (d := '-') (by decide),
    toLower_beq (d := '_') (by decide), toLower_beq (d := '\\') (by decide)]

theorem ignoresCase_isTypeChar : IgnoresCase isTypeChar := by
  intro c
  rw [isTypeChar, isTypeChar, ignoresCase_isNameChar c, toLower_beq (by decide)]

theorem ignoresCase_isCombinator : IgnoresCase isCombinator := ignoresCase_of_capitals (by decide)

theorem typeExtent_asciiLower (s : Text) : typeExtent (asciiLower s) = typeExtent s := by
  induction s with
  | nil => rfl
  | cons c s ih =>
    have hdigit : startsWithDigit (asciiLower s) = startsWithDigit s := by
      cases s with
      | nil => rfl
      | cons d s => exact ignoresCase_isDigit d
    rw [asciiLower_cons, typeExtent, typeExtent, ignoresCase_isTypeChar c, toLower_beq (by decide), hdigit, ih]

theorem groupExtent_asciiLower (depth : Nat) (s : Text) : groupExtent depth (asciiLower s) = groupExtent depth s := by
  induction s generalizing depth with
  | nil => rfl
  | cons c s ih =>
    unfold groupExtent
    simp only [asciiLower_cons, toLower_beq (d := '(') (by decide), toLower_beq (d := ')') (by decide), ih]

theorem attributeExtent_asciiLower (s : Text) : attributeExtent (asciiLower s) = attributeExtent s := by
  fun_induction attributeExtent s with
  | case1 => rfl
  | case2 cs => rfl
  | case3 c cs ih => exact congrArg (· + 2) ih
  | case4 c cs hclose hescape ih =>
    rw [asciiLower_cons, attributeExtent.eq_4, ih]
    · exact fun h => hclose ((toLower_eq_iff (by decide)).mp h)
    · intro d ds h hcs
      cases cs with
      | nil => cases hcs
      | cons e cs => exact hescape e cs ((toLower_eq_iff (by decide)).mp h) rfl

theorem argumentsExtent_asciiLower (s : Text) : argumentsExtent (asciiLower s) = argumentsExtent s := by
  cases s with
  | nil => rfl
  | cons c s =>
    rw [asciiLower_cons, argumentsExtent, argumentsExtent, groupExtent_asciiLower]
    simp only [toLower_eq_iff (d := '(') (by decide)]

theorem pseudoExtent_asciiLower (s : Text) : pseudoExtent (asciiLower s) = pseudoExtent s := by
  induction s with
  | nil => rfl
  | cons c s ih =>
    have harguments := argumentsExtent_asciiLower (c :: s)
    rw [asciiLower_cons] at harguments ⊢
    rw [pseudoExtent_cons, pseudoExtent_cons, ignoresCase_isNameChar c, ih, harguments]

theorem opening_colon_asciiLower (cs : Text) : opening ':' (asciiLower cs) = opening ':' cs := by
  by_cases hhead : cs.head? = some ':'
  · obtain ⟨rest, rfl⟩ := List.head?_eq_some_iff.mp hhead
    change opening ':' (':' :: asciiLower rest) = opening ':' (':' :: rest)
    rw [opening_colon_colon, opening_colon_colon, pseudoExtent_asciiLower]
  · have hlower : (asciiLower cs).head? ≠ some ':' := by
      cases cs with
      | nil => exact hhead
      | cons c cs => exact fun h => hhead (congrArg some ((toLower_eq_iff (by decide)).mp (Option.some.inj h)))
    rw [opening_colon hlower, opening_colon hhead, pseudoExtent_asciiLower]

theorem opening_asciiLower (c : Char) (cs : Text) : opening c.toLower (asciiLower cs) = opening c cs := by
  by_cases hcolon : c = ':'
  · subst hcolon
    exact opening_colon_asciiLower cs
  · have hcolon' : (c == ':') = false := beq_false_of_ne hcolon
    unfold opening
    simp only [ignoresCase_isBlank c, ignoresCase_isCombinator c, ignoresCase_isTypeChar c,
      toLower_beq (d := '*') (by decide), toLower_beq (d := '.') (by decide), toLower_beq (d := '#') (by decide),
      toLower_beq (d := ':') (by decide), toLower_beq (d := '[') (by decide), hcolon', Bool.false_eq_true, if_false,
      takeWhile_asciiLower ignoresCase_isBlank, takeWhile_asciiLower ignoresCase_isNameChar, length_asciiLower,
      attributeExtent_asciiLower, typeExtent_asciiLower]

/-- The segment with its text in lower case. -/
def inLowerCase (g : Segment) : Segment := ⟨g.kind, asciiLower g.text⟩

@[simp] theorem kind_inLowerCase (g : Segment) : g.inLowerCase.kind = g.kind := rfl

@[simp] theorem text_inLowerCase (g : Segment) : g.inLowerCase.text = asciiLower g.text := rfl

theorem scan_asciiLower (s : Text) : scan (asciiLower s) = (scan s).map inLowerCase := by
  -- A segment takes at least its first character, so the rest is shorter.
  induction hlength : s.length using Nat.strongRecOn generalizing s with
  | ind n ih =>
    cases s with
    | nil => rw [scan_nil]; exact scan_nil
    | cons c cs =>
      have hrest := ih (cs.drop (opening c cs).2).length (by rw [List.length_drop, ← hlength, List.length_cons]; omega) _ rfl
      rw [asciiLower_cons, scan_cons, scan_cons, opening_asciiLower, take_asciiLower, drop_asciiLower, hrest]
      rfl

/-! ### Refusals -/

theorem nameOf_inLowerCase (g : Segment) : Pseudo.nameOf g.inLowerCase = Pseudo.nameOf g := by
  have hparen : IgnoresCase fun c => decide (c ≠ '(') := ignoresCase_of_capitals (by decide)
  rw [Pseudo.nameOf, Pseudo.nameOf, text_inLowerCase, takeWhile_asciiLower hparen, lower_asciiLower]

theorem opening_unknown {c : Char} {cs : Text} {n : Nat} (h : opening c cs = (.unknown, n)) : isTypeChar c = false ∧ n = 0 := by
  by_cases hcolon : c = ':'
  · subst hcolon
    by_cases hhead : cs.head? = some ':'
    · obtain ⟨rest, rfl⟩ := List.head?_eq_some_iff.mp hhead
      cases h
    · rw [opening_colon hhead] at h
      cases h
  · unfold opening at h
    rw [beq_false_of_ne hcolon] at h
    split_ifs at h with _ _ _ _ _ hfalse _ htype
    all_goals first | exact absurd hfalse id | cases (Prod.mk.inj h).1
    exact ⟨Bool.eq_false_iff.mpr htype, (Prod.mk.inj h).2.symm⟩

/-- A character that begins nothing is no letter. -/
theorem asciiLower_of_unknown {s : Text} {g : Segment} (hg : g ∈ scan s) (hkind : g.kind = .unknown) :
    asciiLower g.text = g.text := by
  obtain ⟨A, B, hscan⟩ := List.mem_iff_append.mp hg
  obtain ⟨c, cs, htext, hopening⟩ := exists_of_scan hscan
  rw [hkind] at hopening
  obtain ⟨htype, hlength⟩ := opening_unknown hopening
  obtain rfl := List.length_eq_zero_iff.mp hlength
  have hsame : c.toLower = c := by
    refine (toLower_cases c).resolve_right fun hcapital => ?_
    have hletters : ∀ n ∈ capitalCodes, isTypeChar (Char.ofNat n) = true := by decide
    have hc := hletters _ hcapital
    rw [Char.ofNat_toNat, htype] at hc
    cases hc
  rw [htext, asciiLower_cons, hsame]
  rfl

theorem refusal?_inLowerCase {g : Segment} (hg : g.kind = .unknown → asciiLower g.text = g.text) :
    g.inLowerCase.refusal? = g.refusal? := by
  have hpseudo : g.inLowerCase.isPseudo = g.isPseudo := rfl
  rw [refusal?, refusal?, kind_inLowerCase, text_inLowerCase, hpseudo, Pseudo.isSupported, Pseudo.isSupported,
    Pseudo.isElement, Pseudo.isElement, nameOf_inLowerCase, kind_inLowerCase]
  split
  · rename_i hkind
    rw [hg (beq_iff_eq.mp hkind)]
  · rfl

/-! ### What is written -/

theorem ofSelector?_asciiLower (s : Text) : Control.ofSelector? (asciiLower s) = Control.ofSelector? s := by
  rw [Control.ofSelector?, Control.ofSelector?, trim_asciiLower, lower_asciiLower]

theorem isRootTag_asciiLower (tag : Text) : isRootTag (asciiLower tag) = isRootTag tag := by
  rw [isRootTag, isRootTag, lower_asciiLower]

theorem asciiLower_elementName (tag : Text) : asciiLower (elementName (asciiLower tag)) = asciiLower (elementName tag) := by
  rw [elementName, elementName, ofSelector?_asciiLower]
  cases Control.ofSelector? tag with
  | none => exact asciiLower_asciiLower tag
  | some control => rfl

theorem asciiLower_inputSelector (type : Text) :
    Control.inputSelector (asciiLower type) = asciiLower (Control.inputSelector type) := by
  obtain ⟨front, back, hfront, hback, hform⟩ : ∃ front back : Text, asciiLower front = front ∧ asciiLower back = back ∧
      ∀ t, Control.inputSelector t = front ++ t ++ back :=
    ⟨"input[type=\"", "\"]", by decide, by decide, fun t => rfl⟩
  rw [hform, hform, asciiLower_append, asciiLower_append, hfront, hback]

theorem head?_asciiLower_eq_iff {d : Char} (hd : d.isAlpha = false) (s : Text) :
    (asciiLower s).head? = some d ↔ s.head? = some d := by
  cases s with
  | nil => rfl
  | cons c s => rw [asciiLower_cons, List.head?_cons, List.head?_cons, Option.some.injEq, Option.some.injEq, toLower_eq_iff hd]

theorem any_isQuote_asciiLower (s : Text) : (asciiLower s).head?.any Nesting.isQuote = s.head?.any Nesting.isQuote := by
  cases s with
  | nil => rfl
  | cons c s => exact ignoresCase_isQuote c

theorem asciiLower_beq_singleton {d : Char} (hd : d.isAlpha = false) (s : Text) : (asciiLower s == [d]) = (s == [d]) := by
  cases s with
  | nil => rfl
  | cons c s =>
    rw [asciiLower_cons, List.cons_beq_cons, List.cons_beq_cons, toLower_beq hd]
    cases s <;> rfl

theorem askedType?_of_ne {c : Char} (hc : c ≠ '[') (rest : Text) : askedType? ⟨.attribute, c :: rest⟩ = none := by
  rw [askedType?, if_neg (not_not.mpr rfl)]
  split
  · rename_i heq
    exact absurd (List.cons.inj heq).1 hc
  · rfl

theorem askedType?_inLowerCase (g : Segment) : askedType? g.inLowerCase = (askedType? g).map asciiLower := by
  obtain ⟨kind, text⟩ := g
  by_cases hkind : kind = .attribute
  · subst hkind
    cases text with
    | nil => rfl
    | cons c rest =>
      rw [inLowerCase, asciiLower_cons]
      by_cases hc : c = '['
      · subst hc
        have hstops : IgnoresCase fun c => !(c == '"' || c == '\'' || c == ']' || isBlank c) :=
          ignoresCase_of_capitals (by decide)
        -- Step by step the same is left away in front of the type and found behind it.
        simp only [askedType?, show '['.toLower = '[' from rfl, dropWhile_asciiLower ignoresCase_isBlank, drop_asciiLower,
          startsWithAnyCase_asciiLower, ne_eq, head?_asciiLower_eq_iff (d := '=') (by decide), any_isQuote_asciiLower,
          ← apply_ite asciiLower, takeWhile_asciiLower hstops, dropWhile_asciiLower hstops, isEmpty_asciiLower,
          asciiLower_beq_singleton (d := ']') (by decide)]
        repeat' split
        all_goals rfl
      · have hlower : c.toLower ≠ '[' := fun h => hc ((toLower_eq_iff (by decide)).mp h)
        rw [askedType?_of_ne hc, askedType?_of_ne hlower, Option.map_none]
  · rw [askedType?, askedType?, if_pos hkind, kind_inLowerCase, if_pos hkind, Option.map_none]

theorem typedInput?_inLowerCase (tag : Text) (next : Segment) :
    typedInput? (asciiLower tag) next.inLowerCase = typedInput? tag next := by
  rw [typedInput?, typedInput?, lower_asciiLower, askedType?_inLowerCase, Option.bind_map]
  congr 2
  funext type
  rw [Function.comp_apply, asciiLower_inputSelector, ofSelector?_asciiLower]

theorem isBorder_inLowerCase (neighbour : Option Segment) : isBorder (neighbour.map inLowerCase) = isBorder neighbour := by
  cases neighbour <;> rfl

theorem typedAt?_inLowerCase (before : Option Segment) (g : Segment) (after : Option Segment) :
    typedAt? (before.map inLowerCase) g.inLowerCase (after.map inLowerCase) = typedAt? before g after := by
  rw [typedAt?, typedAt?, kind_inLowerCase, isBorder_inLowerCase, text_inLowerCase]
  cases after with
  | none => rfl
  | some next => rw [Option.map_some, Option.bind_some, Option.bind_some, typedInput?_inLowerCase]

theorem asciiLower_written (earlier before : Option Segment) (g : Segment) (after : Option Segment) :
    asciiLower (written (earlier.map inLowerCase) (before.map inLowerCase) g.inLowerCase (after.map inLowerCase)) =
      asciiLower (written earlier before g after) := by
  have htext : asciiLower g.inLowerCase.text = asciiLower g.text := asciiLower_asciiLower g.text
  have htyped : (before.map inLowerCase).bind (fun tag => typedAt? (earlier.map inLowerCase) tag (some g.inLowerCase)) =
      before.bind fun tag => typedAt? earlier tag (some g) := by
    cases before with
    | none => rfl
    | some tag => exact typedAt?_inLowerCase earlier tag (some g)
  rw [written, written, htyped, typedAt?_inLowerCase, isBorder_inLowerCase, isBorder_inLowerCase, kind_inLowerCase]
  by_cases hasks : g.kind = .attribute
  · rw [hasks]
    dsimp only
    split
    · rfl
    · exact htext
  · cases hkind : g.kind with
    | whitespace => rfl
    | typeName =>
      dsimp only
      rw [text_inLowerCase, isRootTag_asciiLower]
      split
      · exact htext
      split
      · rfl
      · cases typedAt? before g after with
        | none => exact asciiLower_elementName g.text
        | some control => rfl
    | _ => first | exact htext | exact absurd hkind hasks

theorem asciiLower_writtenFrom (earlier before : Option Segment) (A : List Segment) :
    asciiLower (writtenFrom (earlier.map inLowerCase) (before.map inLowerCase) (A.map inLowerCase)) =
      asciiLower (writtenFrom earlier before A) := by
  induction A generalizing earlier before with
  | nil => rfl
  | cons g A ih =>
    have hrest := ih before (some g)
    rw [Option.map_some] at hrest
    rw [List.map_cons, writtenFrom, writtenFrom, asciiLower_append, asciiLower_append, hrest, List.head?_map,
      asciiLower_written]

end Segment

namespace Selector

open Segment

theorem refusal?_asciiLower (policy : Policy) (raw : Text) :
    (ofText (asciiLower raw)).refusal? policy = (ofText raw).refusal? policy := by
  have hwords : (words (asciiLower raw)).findSome? policy.breakingMatch? = (words raw).findSome? policy.breakingMatch? := by
    rw [words_asciiLower, List.findSome?_map]
    congr 1
    funext word
    rw [Function.comp_apply, Policy.breakingMatch?, Policy.breakingMatch?, lower_asciiLower]
  have hsegments : ∀ A : List Segment, (∀ g ∈ A, g.kind = .unknown → asciiLower g.text = g.text) →
      (A.map inLowerCase).findSome? Segment.refusal? = A.findSome? Segment.refusal? := by
    intro A hA
    induction A with
    | nil => rfl
    | cons g A ih =>
      obtain ⟨hg, hA⟩ := List.forall_mem_cons.mp hA
      rw [List.map_cons, List.findSome?_cons, List.findSome?_cons, refusal?_inLowerCase hg, ih hA]
  rw [refusal?, refusal?, ofText, ofText, hwords, scan_asciiLower, hsegments _ fun g hg => asciiLower_of_unknown hg]

theorem asciiLower_rewritten (raw : Text) :
    asciiLower (ofText (asciiLower raw)).rewritten = asciiLower (ofText raw).rewritten := by
  have hrewriting : ∀ A : List Segment, asciiLower (rewriting (A.map inLowerCase)) = asciiLower (rewriting A) := by
    intro A
    have hwritten : ∀ B, writtenFrom none none B = rewriting B := fun B => writtenFrom_eq_rewriting (.inl isBorder_none)
    rw [← hwritten, ← hwritten]
    exact asciiLower_writtenFrom none none A
  calc asciiLower (ofText (asciiLower raw)).rewritten
      = trim (asciiLower (rewriting (scan (asciiLower raw)))) := (trim_asciiLower _).symm
    _ = trim (asciiLower (rewriting (scan raw))) := by rw [scan_asciiLower, hrewriting]
    _ = asciiLower (ofText raw).rewritten := trim_asciiLower _

/-- A selector in lower case has the verdict of the selector, up to letter case of the text. -/
theorem rewrite_asciiLower (policy : Policy) (raw : Text) :
    ((ofText (asciiLower raw)).rewrite policy).map asciiLower = ((ofText raw).rewrite policy).map asciiLower := by
  rw [rewrite, rewrite, refusal?_asciiLower]
  cases (ofText raw).refusal? policy with
  | some refusal => rfl
  | none => exact congrArg Except.ok (asciiLower_rewritten raw)

/--
Two selectors that differ only in the case of letters of ASCII are both refused, for the same reason and with the same consequence for their rule, or both accepted, and their texts differ only in the case of letters of ASCII again.
-/
theorem rewrite_ignoresCase (policy : Policy) {raw raw' : Text} (h : asciiLower raw = asciiLower raw') :
    ((ofText raw).rewrite policy).map asciiLower = ((ofText raw').rewrite policy).map asciiLower := by
  rw [← rewrite_asciiLower policy raw, h, rewrite_asciiLower]

/-- Tags, types, pseudo classes and the denylist are all met in either case, and what stays as it was written keeps its case. -/
theorem rewrite_ignoresCase_inputs :
    asciiLower "INPUT[Type=CheckBox].Big:HOVER" = asciiLower "input[TYPE=checkbox].bIg:hover" ∧
      (ofText "INPUT[Type=CheckBox].Big:HOVER").rewrite (.ofTables [] ["Small"]) = .ok "Toggle.Big:HOVER" ∧
      ((ofText "input[TYPE=checkbox].bIg:hover").rewrite (.ofTables [] ["Small"])).map asciiLower = .ok "toggle.big:hover" ∧
      asciiLower "a.sMALL::b" = asciiLower "A.Small::B" ∧
      ((ofText "A.Small::B").rewrite (.ofTables [] ["Small"])).map asciiLower = .error (.breaking "small") := by
  have hinput : asciiLower "INPUT[Type=CheckBox].Big:HOVER" = asciiLower "input[TYPE=checkbox].bIg:hover" := by decide
  have hsmall : asciiLower "a.sMALL::b" = asciiLower "A.Small::B" := by decide
  have haccepted : (ofText "INPUT[Type=CheckBox].Big:HOVER").rewrite (.ofTables [] ["Small"]) = .ok "Toggle.Big:HOVER" := by
    decide +kernel
  have hrefused : (ofText "a.sMALL::b").rewrite (.ofTables [] ["Small"]) = .error (.breaking "small") := by decide
  refine ⟨hinput, haccepted, ?_, hsmall, ?_⟩
  · rw [← rewrite_ignoresCase (.ofTables [] ["Small"]) hinput, haccepted]
    decide
  · rw [← rewrite_ignoresCase (.ofTables [] ["Small"]) hsmall, hrefused]
    rfl

end Selector

end UiToolkit
