import UiToolkit.Proofs.DroppedElements
import UiToolkit.Proofs.ElementNames

/-!
# Labels for loose text

Text inside a container becomes a label, with or without an element for labels around it. The element's text has single spaces between its words and is put in upper case where that is asked for; loose text is only trimmed. So both give the same document just when the trimmed text has these properties by itself.
-/

namespace UiToolkit

open Text

/-! ### Upper case -/

namespace Text

theorem not_isBlank_ofNat {m : Nat} (h : m ∉ blankCodes) : isBlank (Char.ofNat m) = false := by
  refine Bool.eq_false_iff.mpr fun hblank => ?_
  by_cases hvalid : m.isValidChar
  · have htoNat : (Char.ofNat m).toNat = m := by
      rw [Char.ofNat, dif_pos hvalid]
      rfl
    have hmem := forall_blank (p := fun c => blankCodes.contains c.toNat) (by decide) hblank
    rw [htoNat, List.contains_iff_mem] at hmem
    exact h hmem
  · rw [Char.ofNat, dif_neg hvalid] at hblank
    cases hblank

/-- No blank is the upper case of another character. -/
theorem not_isBlank_of_mem_upperForm {c d : Char} (hc : isBlank c = false) (hd : d ∈ upperForm c) : isBlank d = false := by
  have hforms : ∀ entry ∈ longUpperForms, ∀ m ∈ entry.2, m ∉ blankCodes := by decide
  have hruns : ∀ run ∈ upperRuns, ∀ code ∈ blankCodes, code < run.target ∨ run.target + (run.last - run.first) < code := by
    decide +kernel
  unfold upperForm at hd
  dsimp only at hd
  split at hd
  · rename_i hascii
    obtain rfl := List.mem_singleton.mp hd
    have hall := forall_ascii (p := fun e => isBlank e || !isBlank e.toUpper) (by decide) hascii
    simpa [hc] using hall
  · split at hd
    · rename_i form hform
      obtain ⟨before, after, hsplit, -⟩ := List.lookup_eq_some_iff.mp hform
      obtain ⟨m, hm, rfl⟩ := List.mem_map.mp hd
      exact not_isBlank_ofNat (hforms (c.toNat, form) (hsplit ▸ List.mem_append_right _ List.mem_cons_self) m hm)
    · have hd := List.mem_singleton.mp hd
      cases himage : upperRuns.findSome? (·.image? c.toNat) with
      | none =>
        rw [himage] at hd
        rwa [hd]
      | some m =>
        rw [himage] at hd
        obtain ⟨run, hrun, hm⟩ := List.exists_of_findSome?_eq_some himage
        rw [hd]
        refine not_isBlank_ofNat fun hblank => ?_
        have hbounds := hruns run hrun m hblank
        rw [CaseRun.image?, Option.ite_none_right_eq_some] at hm
        obtain ⟨hinside, hm⟩ := hm
        simp only [Bool.and_eq_true, decide_eq_true_eq, Option.some.injEq] at hinside hm
        omega

theorem upper_append (s t : Text) : upper (s ++ t) = upper s ++ upper t := List.flatMap_append

theorem upper_joinWith (ws : List Text) : upper (joinWith [' '] ws) = joinWith [' '] (ws.map upper) := by
  cases ws with
  | nil => rfl
  | cons word ws =>
    rw [joinWith_cons, List.map_cons, joinWith_cons, upper_append]
    congr 1
    induction ws with
    | nil => rfl
    | cons next ws ih =>
      rw [List.flatMap_cons, upper_append, ih, upper_append]
      rfl

theorem words_upper_spaced (s : Text) : words (upper (spaced s)) = (words s).map upper := by
  rw [spaced, upper_joinWith]
  apply words_joinWith
  · intro word hword
    obtain ⟨original, horiginal, rfl⟩ := List.mem_map.mp hword
    obtain ⟨c, cs, rfl⟩ := List.exists_cons_of_ne_nil (ne_nil_of_mem_words horiginal)
    simp [upper, Uxml.upperForm_ne_nil]
  · intro word hword d hd
    obtain ⟨original, horiginal, rfl⟩ := List.mem_map.mp hword
    obtain ⟨c, hc, hd⟩ := List.mem_flatMap.mp hd
    exact not_isBlank_of_mem_upperForm (not_isBlank_of_mem_words horiginal c hc) hd

theorem spaced_upper_spaced (s : Text) : spaced (upper (spaced s)) = upper (spaced s) := by
  rw [spaced, words_upper_spaced, ← upper_joinWith, spaced]

theorem spaced_ne_nil {s : Text} (h : isBlankText s = false) : spaced s ≠ [] := by
  induction s with
  | nil => cases h
  | cons c s ih =>
    cases hc : isBlank c with
    | true =>
      rw [spaced_cons_of_blank hc]
      apply ih
      rwa [isBlankText, List.all_cons, hc, Bool.true_and] at h
    | false =>
      rw [spaced_cons_of_not_blank hc]
      exact List.cons_ne_nil _ _

/-- A trimmed text with single spaces in upper case has single spaces and is its own upper case. -/
theorem upper_spaced_eq_trim_iff {s : Text} : upper (spaced s) = trim s ↔ spaced s = trim s ∧ upper (trim s) = trim s := by
  constructor
  · intro h
    have hspaced : spaced s = trim s :=
      calc spaced s = spaced (trim s) := by rw [spaced, spaced, words_trim]
        _ = spaced (upper (spaced s)) := by rw [h]
        _ = upper (spaced s) := spaced_upper_spaced s
        _ = trim s := h
    exact ⟨hspaced, by rwa [hspaced] at h⟩
  · rintro ⟨hspaced, hupper⟩
    rw [hspaced, hupper]

end Text

/-! ### Reading -/

namespace Html

variable {t : Text}

theorem scan?_goOn {final : Bool} {raw raw' : Option Text} {c : Char} {cs : Text} {events : List Event} {n : Nat}
    (h : step final raw c cs = .goOn events raw' n) :
    scan? final raw (c :: cs) = (scan? final raw' (cs.drop n)).map (events ++ ·) := by
  rw [scan?, h]

theorem bracketStep_letter {c : Char} (hc : isAsciiLetter c = true) (raw : Option Text) (cs : Text) :
    bracketStep raw (c :: cs) = startStep raw (c :: cs) := by
  unfold bracketStep
  split
  case h_7 _ _ _ _ _ _ _ heq =>
    obtain ⟨rfl, rfl⟩ := List.cons.inj heq
    rw [if_pos hc]
  -- the other cases begin with characters that are no letters
  all_goals
    rename_i heq
    cases heq
  all_goals cases hc

/-- A start tag without attributes, of an element that does not hold raw text. -/
theorem scan?_startTag {tag : Text} (htag : IsTagName tag) (hscript : lower tag ≠ "script".toList)
    (hstyle : lower tag ≠ "style".toList) (final : Bool) (rest : Text) :
    scan? final none ('<' :: (tag ++ '>' :: rest)) = (scan? final none rest).map ([.startTag (lower tag) [] false] ++ ·) := by
  have hstep : step final none '<' (tag ++ '>' :: rest) = .goOn [.startTag (lower tag) [] false] none (tag.length + 1) := by
    obtain ⟨c, hc, hletter⟩ := (Option.any_eq_true _ _).mp htag.head
    obtain ⟨cs, rfl⟩ := List.head?_eq_some_iff.mp hc
    change bracketStep none (c :: (cs ++ '>' :: rest)) = _
    rw [bracketStep_letter hletter, ← List.cons_append, startStep, htag.startTag_eq]
    simp only [Bool.not_false, Bool.true_and, beq_false_of_ne hscript, beq_false_of_ne hstyle, Bool.or_false, Bool.false_eq_true,
      if_false]
  have hdrop : (tag ++ '>' :: rest).drop (tag.length + 1) = rest := by
    rw [← List.drop_drop, List.drop_left]
    rfl
  rw [scan?_goOn hstep, hdrop]

theorem scan?_text (hne : t ≠ []) (ht : ∀ c ∈ t, isPlain c = true) (final : Bool) (rest : Text) :
    scan? final none (t ++ '<' :: rest) = (scan? final none ('<' :: rest)).map ([.text t] ++ ·) := by
  obtain ⟨c, cs, rfl⟩ := List.exists_cons_of_ne_nil hne
  obtain ⟨hc, hcs⟩ := List.forall_mem_cons.mp ht
  have htake : ∀ {s : Text}, (∀ c ∈ s, isPlain c = true) → (s ++ '<' :: rest).takeWhile isPlain = s := by
    intro s hs
    rw [List.takeWhile_append_of_pos hs, List.takeWhile_cons_of_neg (by decide), List.append_nil]
  have hstep : step final none c (cs ++ '<' :: rest) = .goOn [.text (c :: cs)] none cs.length := by
    rw [step]
    simp only [hc, if_true]
    rw [← List.cons_append, htake ht, htake hcs]
  rw [List.cons_append, scan?_goOn hstep, List.drop_left]

theorem bracketEnd?_of_ne {s : Text} (hs : ∀ c ∈ s, c ≠ '>') (rest : Text) :
    bracketEnd? (s ++ '>' :: rest) = some (s, s.length + 1) := by
  induction s with
  | nil => rfl
  | cons c s ih =>
    obtain ⟨hc, hs⟩ := List.forall_mem_cons.mp hs
    have hprefix : ">".toList.isPrefixOf (c :: (s ++ '>' :: rest)) = false := by
      rw [show ">".toList = ['>'] from rfl, List.isPrefixOf, beq_false_of_ne hc.symm, Bool.false_and]
    have hrest : splitAtClose? ">" atOnce (s ++ '>' :: rest) = some (s, s.length + 1) := ih hs
    rw [bracketEnd?, List.cons_append, splitAtClose?, hprefix, if_neg Bool.false_ne_true, hrest]
    rfl

theorem strictEndTag?_of_isTagName {tag : Text} (htag : IsTagName tag) (rest : Text) :
    strictEndTag? (tag ++ '>' :: rest) = some (lower tag) := by
  have hchars : ∀ c ∈ tag, isTagNameChar c = true ∧ isBlank c = false := by
    intro c hc
    have h := forall_isTagChar (p := fun c => isTagNameChar c && !isBlank c) (by decide) (htag.chars c hc)
    simpa using h
  obtain ⟨c, hc, hletter⟩ := (Option.any_eq_true _ _).mp htag.head
  have hbody : (tag ++ '>' :: rest).dropWhile isBlank = tag ++ '>' :: rest := by
    obtain ⟨cs, rfl⟩ := List.head?_eq_some_iff.mp hc
    rw [List.cons_append, List.dropWhile_cons, (hchars c List.mem_cons_self).2, if_neg Bool.false_ne_true]
  have hname : (tag ++ '>' :: rest).takeWhile isTagNameChar = tag := by
    rw [List.takeWhile_append_of_pos fun c hc => (hchars c hc).1, List.takeWhile_cons_of_neg (by decide), List.append_nil]
  have hhead : (tag ++ '>' :: rest).head?.any isAsciiLetter = true := by
    rw [List.head?_append, hc]
    exact hletter
  have hclosing : ('>' :: rest).dropWhile isBlank = '>' :: rest := List.dropWhile_cons_of_neg (by decide)
  rw [strictEndTag?]
  simp only [hbody, hname, hhead, List.drop_left, hclosing, List.head?_cons, beq_self_eq_true, Bool.and_self, if_true]

theorem scan?_endTag {tag : Text} (htag : IsTagName tag) (final : Bool) (rest : Text) :
    scan? final none ('<' :: '/' :: (tag ++ '>' :: rest)) = (scan? final none rest).map ([.endTag (lower tag)] ++ ·) := by
  have hbracket : ∀ c ∈ tag, c ≠ '>' := by
    intro c hc
    have h := forall_isTagChar (p := fun c => c != '>') (by decide) (htag.chars c hc)
    simpa using h
  have hstep : step final none '<' ('/' :: (tag ++ '>' :: rest)) = .goOn [.endTag (lower tag)] none (tag.length + 2) := by
    change endStep none (tag ++ '>' :: rest) = _
    rw [endStep, bracketEnd?_of_ne hbracket, strictEndTag?_of_isTagName htag]
  have hdrop : ('/' :: (tag ++ '>' :: rest)).drop (tag.length + 2) = rest := by
    rw [List.drop_succ_cons, ← List.drop_drop, List.drop_left]
    rfl
  rw [scan?_goOn hstep, hdrop]

/-- A text as it stands between the tags of an element. -/
theorem scan?_element {tag : Text} (htag : IsTagName tag) (hscript : lower tag ≠ "script".toList)
    (hstyle : lower tag ≠ "style".toList) (hne : t ≠ []) (ht : ∀ c ∈ t, isPlain c = true) (final : Bool) (rest : Text) :
    scan? final none ('<' :: (tag ++ '>' :: (t ++ '<' :: '/' :: (tag ++ '>' :: rest)))) =
      (scan? final none rest).map ([.startTag (lower tag) [] false, .text t, .endTag (lower tag)] ++ ·) := by
  rw [scan?_startTag htag hscript hstyle, scan?_text hne ht, scan?_endTag htag]
  simp only [Option.map_map]
  rfl

/-- A text as it stands in a container. -/
def loose (t : Text) : Text := "<div>" ++ (t ++ "</div>")

/-- A text in an element for labels of its own. -/
def wrapped (t : Text) : Text := "<div>" ++ ("<span>" ++ (t ++ ("</span>" ++ "</div>".toList)))

theorem events?_loose (hne : t ≠ []) (ht : ∀ c ∈ t, isPlain c = true) :
    events? (loose t) = some [.startTag "div" [] false, .text t, .endTag "div"] := by
  have hdiv : IsTagName "div" := ⟨by decide, by decide⟩
  refine (scan?_element hdiv (by decide) (by decide) hne ht false []).trans ?_
  rw [scan?]
  rfl

theorem events?_wrapped (hne : t ≠ []) (ht : ∀ c ∈ t, isPlain c = true) :
    events? (wrapped t) =
      some [.startTag "div" [] false, .startTag "span" [] false, .text t, .endTag "span", .endTag "div"] := by
  have hdiv : IsTagName "div" := ⟨by decide, by decide⟩
  have hspan : IsTagName "span" := ⟨by decide, by decide⟩
  have hclose : scan? false none "</div>" = some [.endTag "div"] := by
    refine (scan?_endTag hdiv false []).trans ?_
    rw [scan?]
    rfl
  have hinner : scan? false none ("<span>" ++ (t ++ ("</span>" ++ "</div>".toList))) = _ :=
    scan?_element hspan (by decide) (by decide) hne ht false "</div>"
  have hwhole : events? (wrapped t) = _ :=
    scan?_startTag hdiv (by decide) (by decide) false ("<span>" ++ (t ++ ("</span>" ++ "</div>".toList)))
  rw [hwhole, hinner, hclose]
  rfl

/-! ### Building -/

theorem isBlank_of_isLayoutBlank {c : Char} (hc : Builder.isLayoutBlank c = true) : isBlank c = true := by
  simp only [Builder.isLayoutBlank, Bool.or_eq_true, beq_iff_eq] at hc
  rcases hc with (((rfl | rfl) | rfl) | rfl) | rfl <;> rfl

theorem collapseBlanks_of_not_blank (h : isBlankText t = false) (b : Builder) : b.collapseBlanks t = t := by
  have hlayout : t.all Builder.isLayoutBlank = false := by
    refine Bool.eq_false_iff.mpr fun hall => ?_
    rw [isBlankText, List.all_eq_true.mpr fun c hc => isBlank_of_isLayoutBlank (List.all_eq_true.mp hall c hc)] at h
    cases h
  rw [Builder.collapseBlanks, hlayout, Bool.false_and, if_neg Bool.false_ne_true]

theorem flush_text (h : isBlankText t = false) (e : OpenElement) (outer : List OpenElement)
    (hinside : (⟨e :: outer, [], t, []⟩ : Builder).isInside specialElements = false) :
    (⟨e :: outer, [], t, []⟩ : Builder).flush = ⟨{ e with children := .text .ordinary t :: e.children } :: outer, [], [], []⟩ := by
  have hpending : t.isEmpty = false := by
    cases t with
    | nil => cases h
    | cons c t => rfl
  rw [Builder.flush, hpending, hinside, collapseBlanks_of_not_blank h]
  rfl

theorem closeElement_innermost {b : Builder} {e : OpenElement} {outer : List OpenElement} (h : b.flush.opened = e :: outer) :
    b.closeElement e.name = b.flush.closeOne := by
  rw [Builder.closeElement, h, List.findIdx?_cons, beq_self_eq_true]
  rfl

theorem ne_nil_of_not_blank (h : isBlankText t = false) : t ≠ [] := by
  rintro rfl
  cases h

theorem document?_loose (h : isBlankText t = false) (ht : ∀ c ∈ t, isPlain c = true) :
    document? (loose t) = some [.element "div" [] [.text .ordinary t]] := by
  have hflush := flush_text h ⟨"div", [], []⟩ [] rfl
  have hclose : (⟨[⟨"div", [], []⟩], [], t, []⟩ : Builder).closeElement "div" =
      ⟨[], [.element "div" [] [.text .ordinary t]], [], []⟩ := by
    refine (closeElement_innermost (congrArg Builder.opened hflush)).trans ?_
    rw [hflush]
    rfl
  rw [document?, events?_loose (ne_nil_of_not_blank h) ht]
  exact congrArg (fun b : Builder => some b.finish) hclose

theorem document?_wrapped (h : isBlankText t = false) (ht : ∀ c ∈ t, isPlain c = true) :
    document? (wrapped t) = some [.element "div" [] [.element "span" [] [.text .ordinary t]]] := by
  have hflush := flush_text h ⟨"span", [], []⟩ [⟨"div", [], []⟩] rfl
  have hclose : (⟨[⟨"span", [], []⟩, ⟨"div", [], []⟩], [], t, []⟩ : Builder).closeElement "span" =
      ⟨[⟨"div", [], [.element "span" [] [.text .ordinary t]]⟩], [], [], []⟩ := by
    refine (closeElement_innermost (congrArg Builder.opened hflush)).trans ?_
    rw [hflush]
    rfl
  rw [document?, events?_wrapped (ne_nil_of_not_blank h) ht]
  exact congrArg (fun b : Builder => some (b.add (.endTag "div")).finish) hclose

end Html

/-! ### Writing -/

namespace Uxml

open Html

/-- The characters that are written by name. -/
def named : Text := "&<>\"'"

theorem escapeChar_of_notMem {c : Char} (hc : c ∉ named) : escapeChar c = [c] := by
  have hne : ∀ d ∈ named, (c == d) = false := fun d hd => beq_false_of_ne fun heq => hc (heq ▸ hd)
  simp only [escapeChar, hne '&' (by decide), hne '<' (by decide), hne '>' (by decide), hne '"' (by decide),
    hne '\'' (by decide), Bool.false_eq_true, if_false]

/-- No written form of a character begins that of another. -/
theorem eq_of_prefix_escapeChar {c d : Char} (h : escapeChar c <+: escapeChar d) : c = d := by
  have hhead : ∀ e ∈ named, (escapeChar e).head? = some '&' := by decide
  have hplain : ∀ {e : Char}, e ∉ named → (escapeChar e).head? = some e := fun he => by rw [escapeChar_of_notMem he]; rfl
  have hsame : (escapeChar d).head? = (escapeChar c).head? := by
    obtain ⟨rest, hrest⟩ := h
    rw [← hrest, List.head?_append_of_ne_nil _ (escapeChar_ne_nil c)]
  by_cases hc : c ∈ named <;> by_cases hd : d ∈ named
  · exact (by decide : ∀ c ∈ named, ∀ d ∈ named, escapeChar c <+: escapeChar d → c = d) c hc d hd h
  · rw [hplain hd, hhead c hc] at hsame
    exact absurd (Option.some.inj hsame ▸ (by decide : '&' ∈ named)) hd
  · rw [hplain hc, hhead d hd] at hsame
    exact absurd (Option.some.inj hsame ▸ (by decide : '&' ∈ named)) hc
  · rw [hplain hc, hplain hd] at hsame
    exact (Option.some.inj hsame).symm

theorem escape_injective {s t : Text} (h : escape s = escape t) : s = t := by
  induction s generalizing t with
  | nil =>
    cases t with
    | nil => rfl
    | cons d t => exact absurd h.symm (by simp [escape, escapeChar_ne_nil])
  | cons c s ih =>
    cases t with
    | nil => exact absurd h (by simp [escape, escapeChar_ne_nil])
    | cons d t =>
      have h : escapeChar c ++ escape s = escapeChar d ++ escape t := h
      obtain rfl : c = d := by
        rcases List.prefix_or_prefix_of_prefix ⟨escape s, h⟩ ⟨escape t, rfl⟩ with hprefix | hprefix
        · exact eq_of_prefix_escapeChar hprefix
        · exact (eq_of_prefix_escapeChar hprefix).symm
      rw [ih (List.append_cancel_left h)]

/-- The line of a label inside a container. -/
def labelLine (text : Text) : Text := "\t\t<ui:Label text=\"" ++ (escape text ++ "\"/>")

/-- A document with one label in one container. -/
def labelDocument (text : Text) : Text :=
  joinWith ['\n'] ([opening] ++ ["\t<ui:VisualElement>".toList, labelLine text, "\t</ui:VisualElement>".toList] ++ [closing]) ++
    ['\n']

theorem labelDocument_injective {s t : Text} (h : labelDocument s = labelDocument t) : s = t := by
  have hlines : ∀ {a b x y d e : Text}, joinWith ['\n'] ([a] ++ [b, x, d] ++ [e]) ++ ['\n'] =
      joinWith ['\n'] ([a] ++ [b, y, d] ++ [e]) ++ ['\n'] → x = y := by
    intro a b x y d e heq
    simpa [joinWith_cons] using heq
  have htext : escape s ++ "\"/>".toList = escape t ++ "\"/>".toList := List.append_cancel_left (hlines h)
  exact escape_injective (List.append_cancel_right htext)

/-- What the label of an element shows. -/
def shown (config : Config) (t : Text) : Text := if config.uppercase then upper (spaced t) else spaced t

variable {config : Config} {t : Text}

theorem labelLine_eq (text : Text) : indent 2 ++ startText Control.label.tag [("text", text)] ++ "/>" = labelLine text := by
  have hgather : ∀ a b c d e f g : Text, a ++ (b ++ (c ++ d ++ e ++ f ++ [])) ++ g = (a ++ (b ++ (c ++ d))) ++ (e ++ (f ++ g)) := by
    intro a b c d e f g
    simp only [List.append_assoc, List.append_nil]
  exact hgather (indent 2) ('<' :: Control.label.tag) (' ' :: "text".toList) "=\"" (escape text) "\"" "/>"

theorem focusableAttribute_eq_nil {control : Option Control} (h : control ≠ some .textField) :
    focusableAttribute config control = [] := by
  unfold focusableAttribute
  split
  · rw [beq_false_of_ne h, if_neg Bool.false_ne_true]
  · rfl

theorem startText_div (children : List Node) :
    startText (tagOf "div" (some .visualElement)) (startAttributes config (some .visualElement) [] children) =
      "<ui:VisualElement" := by
  rw [startAttributes, focusableAttribute_eq_nil (by decide)]
  rfl

theorem ofDocument_div {node : Node} {text : Text} (hbody : body [.element "div" [] [node]] = [.element "div" [] [node]])
    (hlines : lines config (some .visualElement) 2 node = [labelLine text]) :
    ofDocument config [.element "div" [] [node]] = labelDocument text := by
  have hcontrol : control? "div" [] = some .visualElement := by decide
  have hinner : listLines config (some .visualElement) 2 [node] = [labelLine text] := by
    rw [listLines, listLines, hlines]
    rfl
  have hdiv : lines config none 1 (.element "div" [] [node]) =
      elementLines 1 (tagOf "div" (some .visualElement)) "<ui:VisualElement" [labelLine text] := by
    rw [lines_elementLines config none 1 (by decide) (by decide), hcontrol, startText_div, hinner]
  rw [ofDocument, hbody, listLines, listLines, hdiv]
  rfl

theorem ofDocument_loose (h : isBlankText t = false) :
    ofDocument config [.element "div" [] [.text .ordinary t]] = labelDocument (trim t) := by
  apply ofDocument_div rfl
  rw [lines, textLines, h, ← labelLine_eq]
  · rfl
  · intro hkind
    cases hkind

theorem ofDocument_wrapped (h : isBlankText t = false) :
    ofDocument config [.element "div" [] [.element "span" [] [.text .ordinary t]]] = labelDocument (shown config t) := by
  have hcaption : caption [.text .ordinary t] = spaced t := by
    rw [caption, Node.plainTexts, Node.plainTexts, Node.plainText, List.append_nil]
    · rfl
    · intro hkind
      cases hkind
  have hcontrol : control? "span" [] = some .label := by decide
  apply ofDocument_div rfl
  rw [lines_caption config _ _ (by decide) (by decide), hcaption, if_neg (spaced_ne_nil h), captionLine, hcontrol,
    focusableAttribute_eq_nil (by decide), ← labelLine_eq]
  rfl

/--
A text is shown alike with and without an element for labels around it just when it has single spaces between its words, and, where upper case is asked for, is in upper case already.
-/
theorem labels_agree_iff (config : Config) (h : isBlankText t = false) (ht : ∀ c ∈ t, c ≠ '<' ∧ c ≠ '&') :
    ∃ looseDocument wrappedDocument,
      document? (loose t) = some looseDocument ∧ document? (wrapped t) = some wrappedDocument ∧
        ofDocument config looseDocument = labelDocument (trim t) ∧
        ofDocument config wrappedDocument = labelDocument (shown config t) ∧
        (ofDocument config looseDocument = ofDocument config wrappedDocument ↔
          spaced t = trim t ∧ (config.uppercase = true → upper (trim t) = trim t)) := by
  have hplain : ∀ c ∈ t, isPlain c = true := by
    intro c hc
    rw [isPlain, beq_false_of_ne (ht c hc).1, beq_false_of_ne (ht c hc).2]
    rfl
  have hshown : shown config t = trim t ↔ spaced t = trim t ∧ (config.uppercase = true → upper (trim t) = trim t) := by
    rw [shown]
    cases config.uppercase with
    | true => simpa using upper_spaced_eq_trim_iff
    | false => simp
  refine ⟨_, _, document?_loose h hplain, document?_wrapped h hplain, ofDocument_loose h, ofDocument_wrapped h, ?_⟩
  rw [ofDocument_loose h, ofDocument_wrapped h, ← hshown]
  exact ⟨fun heq => (labelDocument_injective heq).symm, fun heq => congrArg labelDocument heq.symm⟩

theorem labels_agree_iff_words :
    ∃ looseDocument wrappedDocument,
      document? (loose " two words\n") = some looseDocument ∧ document? (wrapped " two words\n") = some wrappedDocument ∧
        ofDocument .empty looseDocument = ofDocument .empty wrappedDocument := by
  have h : isBlankText " two words\n" = false := by decide
  obtain ⟨looseDocument, wrappedDocument, hloose, hwrapped, -, -, hiff⟩ := labels_agree_iff .empty h (by decide)
  exact ⟨looseDocument, wrappedDocument, hloose, hwrapped, hiff.mpr ⟨by decide, by decide⟩⟩

/-- Loose text keeps its second space, and its letters where labels are put in upper case. -/
theorem not_labels_agree :
    (document? (loose "a  b") = some [.element "div" [] [.text .ordinary "a  b"]] ∧
      document? (wrapped "a  b") = some [.element "div" [] [.element "span" [] [.text .ordinary "a  b"]]] ∧
      ofDocument .empty [.element "div" [] [.text .ordinary "a  b"]] ≠
        ofDocument .empty [.element "div" [] [.element "span" [] [.text .ordinary "a  b"]]]) ∧
    (document? (loose "a") = some [.element "div" [] [.text .ordinary "a"]] ∧
      document? (wrapped "a") = some [.element "div" [] [.element "span" [] [.text .ordinary "a"]]] ∧
      ofDocument ⟨[], true, none⟩ [.element "div" [] [.text .ordinary "a"]] ≠
        ofDocument ⟨[], true, none⟩ [.element "div" [] [.element "span" [] [.text .ordinary "a"]]]) := by
  refine ⟨⟨document?_loose (by decide) (by decide), document?_wrapped (by decide) (by decide), ?_⟩,
    document?_loose (by decide) (by decide), document?_wrapped (by decide) (by decide), ?_⟩
  · rw [ofDocument_loose (by decide), ofDocument_wrapped (by decide)]
    exact fun h => absurd (labelDocument_injective h) (by decide)
  · rw [ofDocument_loose (by decide), ofDocument_wrapped (by decide)]
    exact fun h => absurd (labelDocument_injective h) (by decide)

end Uxml

end UiToolkit
