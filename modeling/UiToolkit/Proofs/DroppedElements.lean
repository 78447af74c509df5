import Mathlib.Data.List.Flatten
import UiToolkit.Proofs.DocumentTrees
import UiToolkit.Proofs.Words
import UiToolkit.Uxml.Document

/-!
# Dropped elements

Scripts, styles and other elements without a counterpart are left out of a document with all that is in them. The text of a label or a button is gathered from everything inside it, though, so it has the text of dropped elements too. When these are deleted beforehand, the document loses text of labels and buttons and nothing else, and it stays as it was exactly when none of them had words of that kind.
-/

namespace UiToolkit

open Text

namespace Text

/-! ### Words with single spaces -/

/-- The words of a text with single spaces between them. -/
def spaced (s : Text) : Text := joinWith [' '] (words s)

/-- What stands behind a word: a space where the text goes on with a blank and has more words. -/
def spacedRest (s : Text) : Text :=
  match s with
  | [] => []
  | c :: _ => if isBlank c then (words s).flatMap ([' '] ++ ·) else spaced s

theorem spaced_cons_of_blank {c : Char} (hc : isBlank c = true) (s : Text) : spaced (c :: s) = spaced s := by
  rw [spaced, spaced, words_cons_of_blank hc]

theorem spaced_cons_of_not_blank {c : Char} (hc : isBlank c = false) (s : Text) :
    spaced (c :: s) = c :: spacedRest s := by
  rw [spaced]
  rcases words_cons_of_not_blank hc s with ⟨hhead, hwords⟩ | ⟨d, ds, rfl, hd, word, rest, hrest, hwords⟩
  · rw [hwords, joinWith_cons]
    cases s with
    | nil => rfl
    | cons d ds => rw [spacedRest, if_pos (hhead d rfl)]; rfl
  · rw [hwords, joinWith_cons, spacedRest, hd, if_neg Bool.false_ne_true, spaced, hrest, joinWith_cons]
    rfl

theorem spacedWords_cases (s : Text) :
    (spaced s = [] ∧ (words s).flatMap ([' '] ++ ·) = []) ∨ (spaced s ≠ [] ∧ (words s).flatMap ([' '] ++ ·) = ' ' :: spaced s) := by
  rw [spaced]
  cases hwords : words s with
  | nil => exact .inl ⟨rfl, rfl⟩
  | cons word rest =>
    have hword : word ≠ [] := by
      have hmem : word ∈ words s := hwords ▸ List.mem_cons_self
      simpa using (List.mem_filter.mp hmem).2
    rw [joinWith_cons, List.flatMap_cons]
    exact .inr ⟨by simp [hword], rfl⟩

theorem spacedWords_sublist {t s : Text} (h : (spaced t).Sublist (spaced s)) :
    ((words t).flatMap ([' '] ++ ·)).Sublist ((words s).flatMap ([' '] ++ ·)) := by
  rcases spacedWords_cases t with ⟨-, ht⟩ | ⟨hne, ht⟩
  · rw [ht]
    exact List.nil_sublist _
  · rcases spacedWords_cases s with ⟨hs, -⟩ | ⟨-, hs⟩
    · exact absurd (List.sublist_nil.mp (hs ▸ h)) hne
    · rw [ht, hs]
      exact h.cons_cons ' '

theorem spaced_sublist_spacedWords (s : Text) : (spaced s).Sublist ((words s).flatMap ([' '] ++ ·)) := by
  rcases spacedWords_cases s with ⟨hs, -⟩ | ⟨-, hs⟩
  · rw [hs]
    exact List.nil_sublist _
  · rw [hs]
    exact List.sublist_cons_self _ _

theorem spaced_sublist_spacedRest (s : Text) : (spaced s).Sublist (spacedRest s) := by
  cases s with
  | nil => exact .slnil
  | cons c s =>
    rw [spacedRest]
    split
    · exact spaced_sublist_spacedWords (c :: s)
    · exact .refl _

theorem spacedRest_sublist_spacedWords (s : Text) : (spacedRest s).Sublist ((words s).flatMap ([' '] ++ ·)) := by
  cases s with
  | nil => exact .slnil
  | cons c s =>
    rw [spacedRest]
    split
    · exact .refl _
    · exact spaced_sublist_spacedWords (c :: s)

/-- Characters left out of a text can join its words, but bring no space in. -/
theorem spaced_sublist {t s : Text} (h : t.Sublist s) :
    (spaced t).Sublist (spaced s) ∧ (spacedRest t).Sublist (spacedRest s) := by
  induction h with
  | slnil => exact ⟨.slnil, .slnil⟩
  | @cons t s c _ ih =>
    obtain ⟨hspaced, hrest⟩ := ih
    cases hc : isBlank c with
    | false =>
      have hcons : (spacedRest s).Sublist (spaced (c :: s)) := by
        rw [spaced_cons_of_not_blank hc]
        exact List.sublist_cons_self _ _
      exact ⟨hspaced.trans ((spaced_sublist_spacedRest s).trans hcons),
        hrest.trans (hcons.trans (spaced_sublist_spacedRest _))⟩
    | true =>
      refine ⟨spaced_cons_of_blank hc s ▸ hspaced, ?_⟩
      rw [spacedRest, if_pos hc, words_cons_of_blank hc]
      exact (spacedRest_sublist_spacedWords t).trans (spacedWords_sublist hspaced)
  | @cons_cons t s c _ ih =>
    obtain ⟨hspaced, hrest⟩ := ih
    rw [spacedRest, spacedRest]
    cases hc : isBlank c with
    | false =>
      rw [if_neg Bool.false_ne_true, if_neg Bool.false_ne_true, spaced_cons_of_not_blank hc, spaced_cons_of_not_blank hc]
      exact ⟨hrest.cons_cons c, hrest.cons_cons c⟩
    | true =>
      rw [if_pos rfl, if_pos rfl, spaced_cons_of_blank hc, spaced_cons_of_blank hc, words_cons_of_blank hc,
        words_cons_of_blank hc]
      exact ⟨hspaced, spacedWords_sublist hspaced⟩

end Text

/-! ### Less, or just the same -/

/-- The first list is the second one without some items, and is all of it exactly under the condition. -/
structure Shortened {α : Type} (all : Prop) (less more : List α) : Prop where
  sublist : less.Sublist more
  eq_iff : less = more ↔ all

namespace Shortened

variable {α β : Type} {all all' : Prop} {less more less' more' : List α}

theorem refl (h : all) (xs : List α) : Shortened all xs xs := ⟨.refl xs, iff_of_true rfl h⟩

theorem append (h : Shortened all less more) (h' : Shortened all' less' more') :
    Shortened (all ∧ all') (less ++ less') (more ++ more') := by
  refine ⟨h.sublist.append h'.sublist, fun heq => ?_, fun ⟨hall, hall'⟩ => ?_⟩
  · have hlength := congrArg List.length heq
    rw [List.length_append, List.length_append] at hlength
    have hfirst := h.sublist.length_le
    have hsecond := h'.sublist.length_le
    exact ⟨h.eq_iff.mp (h.sublist.eq_of_length (by omega)), h'.eq_iff.mp (h'.sublist.eq_of_length (by omega))⟩
  · rw [h.eq_iff.mpr hall, h'.eq_iff.mpr hall']

theorem append_left (h : Shortened all less more) (front : List α) : Shortened all (front ++ less) (front ++ more) :=
  ⟨h.sublist.append_left front, by rw [List.append_cancel_left_eq, h.eq_iff]⟩

theorem append_right (h : Shortened all less more) (rest : List α) : Shortened all (less ++ rest) (more ++ rest) :=
  ⟨h.sublist.append_right rest, by rw [List.append_cancel_right_eq, h.eq_iff]⟩

theorem flatMap {f : α → List β} (hf : ∀ x, f x ≠ []) (h : Shortened all less more) :
    Shortened all (less.flatMap f) (more.flatMap f) := by
  have hlength : ∀ {xs ys : List α}, xs.Sublist ys → (xs.flatMap f).length = (ys.flatMap f).length → xs = ys := by
    intro xs ys hxs
    induction hxs with
    | slnil => exact fun _ => rfl
    | @cons xs ys y hxs _ =>
      intro heq
      have hle := (hxs.flatMap f).length_le
      have hpos := List.length_pos_iff.mpr (hf y)
      rw [List.flatMap_cons, List.length_append] at heq
      omega
    | @cons_cons xs ys y _ ih =>
      intro heq
      rw [List.flatMap_cons, List.flatMap_cons, List.length_append, List.length_append] at heq
      rw [ih (by omega)]
  refine ⟨h.sublist.flatMap f, fun heq => ?_, fun hall => by rw [h.eq_iff.mpr hall]⟩
  exact h.eq_iff.mp (hlength h.sublist (congrArg List.length heq))

end Shortened

namespace Uxml

open Html

/-! ### Dropped elements taken out beforehand -/

mutual

def withoutDropped : Node → List Node
  | .element name attributes children =>
    if isDropped name then [] else [.element name attributes (listWithoutDropped children)]
  | node => [node]

/-- The nodes without the dropped elements, at any depth. -/
def listWithoutDropped : List Node → List Node
  | [] => []
  | node :: nodes => withoutDropped node ++ listWithoutDropped nodes

end

/-- The document without the dropped elements among the nodes that it shows. -/
def deleteDropped (document : List Node) : List Node := mapBody listWithoutDropped document

mutual

/-- What stands inside the labels and buttons that the walk through a node comes to, those without text included. -/
def captioned : Node → List (List Node)
  | .element name attributes children =>
    if isDropped name then []
    else if holdsText (control? name attributes) then [children]
    else listCaptioned children
  | _ => []

def listCaptioned : List Node → List (List Node)
  | [] => []
  | node :: nodes => captioned node ++ listCaptioned nodes

end

theorem elementNames_withoutDropped :
    (∀ node, Node.elementNames (withoutDropped node) ⊆ Node.elementNames [node]) ∧
      ∀ nodes, Node.elementNames (listWithoutDropped nodes) ⊆ Node.elementNames nodes := by
  apply Node.induction
  case element =>
    intro name attributes children ih
    rw [withoutDropped]
    split
    · exact List.nil_subset _
    · simp only [Node.elementNames, Node.listElements, Node.elements, List.append_nil, List.map_cons] at ih ⊢
      exact List.cons_subset_cons _ ih
  case text => exact fun _ _ => List.Subset.refl _
  case hidden => exact fun _ => List.Subset.refl _
  case nil => exact List.Subset.refl _
  case cons =>
    intro node nodes ihNode ihNodes
    simp only [Node.elementNames, listWithoutDropped, Node.listElements_append, Node.listElements, List.append_nil,
      List.map_append] at ihNode ihNodes ⊢
    exact List.append_subset.mpr ⟨List.subset_append_of_subset_left _ ihNode, List.subset_append_of_subset_right _ ihNodes⟩

theorem plainTexts_withoutDropped :
    (∀ node, (Node.plainTexts (withoutDropped node)).Sublist (Node.plainText node)) ∧
      ∀ nodes, (Node.plainTexts (listWithoutDropped nodes)).Sublist (Node.plainTexts nodes) := by
  apply Node.induction
  case element =>
    intro name attributes children ih
    rw [withoutDropped]
    split
    · exact List.nil_sublist _
    · rw [Node.plainTexts, Node.plainTexts, List.append_nil, Node.plainText, Node.plainText]
      exact ih
  case text => exact fun _ _ => by rw [withoutDropped, Node.plainTexts, Node.plainTexts, List.append_nil]; simp
  case hidden => exact fun _ => .refl _
  case nil => exact .slnil
  case cons =>
    intro node nodes ihNode ihNodes
    rw [listWithoutDropped, Node.plainTexts_append, Node.plainTexts]
    exact ihNode.append ihNodes

theorem caption_listWithoutDropped (children : List Node) :
    (caption (listWithoutDropped children)).Sublist (caption children) :=
  (spaced_sublist (plainTexts_withoutDropped.2 children)).1

/-! ### The lines that remain -/

theorem listLines_append (config : Config) (parent : Option Control) (depth : Nat) (front rest : List Node) :
    listLines config parent depth (front ++ rest) = listLines config parent depth front ++ listLines config parent depth rest := by
  induction front with
  | nil => rfl
  | cons node nodes ih => rw [List.cons_append, listLines, listLines, ih, List.append_assoc]

/-- Lines as they stand in a document, each on a new line. -/
def inRows (ls : List Text) : Text := ls.flatMap (['\n'] ++ ·)

theorem inRows_append (front rest : List Text) : inRows (front ++ rest) = inRows front ++ inRows rest := List.flatMap_append

theorem inRows_singleton (line : Text) : inRows [line] = '\n' :: line := List.append_nil _

theorem inRows_eq_nil_iff {ls : List Text} : inRows ls = [] ↔ ls = [] := by
  cases ls <;> simp [inRows]

theorem ofDocument_eq (config : Config) (document : List Node) :
    ofDocument config document =
      opening ++ (inRows (listLines config none 1 (body document)) ++ inRows [closing, []]) := by
  rw [ofDocument, List.append_assoc, List.singleton_append, joinWith_cons, List.flatMap_append, List.append_assoc, List.append_assoc]
  rfl

theorem escapeChar_ne_nil (c : Char) : escapeChar c ≠ [] := by
  unfold escapeChar
  split_ifs
  case neg => exact List.cons_ne_nil _ _
  all_goals decide

theorem upperForm_ne_nil (c : Char) : upperForm c ≠ [] := by
  have hforms : ∀ entry ∈ longUpperForms, entry.2 ≠ [] := by decide
  unfold upperForm
  extract_lets n
  split
  · exact List.cons_ne_nil _ _
  · split
    · rename_i form hform
      obtain ⟨before, after, hsplit, -⟩ := List.lookup_eq_some_iff.mp hform
      have hmem : (c.toNat, form) ∈ longUpperForms := hsplit ▸ List.mem_append_right _ List.mem_cons_self
      simpa using hforms _ hmem
    · exact List.cons_ne_nil _ _

theorem inRows_elementLines (depth : Nat) (tag start : Text) {inner : List Text} (h : inner ≠ []) :
    inRows (elementLines depth tag start inner) =
      '\n' :: (indent depth ++ start) ++ ('>' :: inRows inner ++ '\n' :: indent depth ++ "</" ++ (tag ++ ">")) := by
  rw [elementLines, if_neg (by simpa using h), inRows_append, inRows_append, inRows_singleton, inRows_singleton]
  simp only [List.append_assoc, List.cons_append]
  rfl

theorem inRows_elementLines_nil (depth : Nat) (tag start : Text) :
    inRows (elementLines depth tag start []) = '\n' :: (indent depth ++ start) ++ "/>" := inRows_singleton _

/-- An element without inner lines closes itself; that takes no character which its end tag does not have. -/
theorem shortened_elementLines {all : Prop} {less more : List Text} (h : Shortened all (inRows less) (inRows more)) (depth : Nat)
    (tag start : Text) : Shortened all (inRows (elementLines depth tag start less)) (inRows (elementLines depth tag start more)) := by
  by_cases hmore : more = []
  · obtain rfl : less = [] := inRows_eq_nil_iff.mp (List.sublist_nil.mp (by subst hmore; exact h.sublist))
    subst hmore
    exact .refl (h.eq_iff.mp rfl) _
  by_cases hless : less = []
  · subst hless
    have hnot : ¬all := fun hall => hmore (inRows_eq_nil_iff.mp (h.eq_iff.mpr hall).symm)
    rw [inRows_elementLines depth tag start hmore, inRows_elementLines_nil]
    refine Shortened.append_left ⟨?_, iff_of_false (fun heq => ?_) hnot⟩ _
    · have hslash : List.Sublist ['/'] ('>' :: inRows more ++ '\n' :: indent depth ++ "</") := by simp
      have hclose : List.Sublist ['>'] (tag ++ ">") := by simp
      exact hslash.append hclose
    · have hlength := congrArg List.length heq
      simp at hlength
      omega
  · rw [inRows_elementLines depth tag start hless, inRows_elementLines depth tag start hmore]
    refine Shortened.append_left (.append_right (.append_right ?_ _) _) _
    exact (h.append_left ['>']).append_right _

def shownCaption (config : Config) (control : Option Control) (text : Text) : Text :=
  if control == some .label && config.uppercase then upper text else text

/-- The line of a label or a button that shows the text. -/
def captionLine (config : Config) (depth : Nat) (name : Text) (attributes : Entries Text) (text : Text) : Text :=
  let control := control? name attributes
  indent depth ++ startText (tagOf name control)
    (("text".toList, shownCaption config control text) :: (keptAttributes attributes ++ focusableAttribute config control)) ++ "/>"

theorem lines_caption (config : Config) (parent : Option Control) (depth : Nat) {name : Text} {attributes : Entries Text}
    (hdropped : isDropped name = false) (hholds : holdsText (control? name attributes) = true) (children : List Node) :
    lines config parent depth (.element name attributes children) =
      if caption children = [] then [] else [captionLine config depth name attributes (caption children)] := by
  rw [lines, captionLine, startAttributes, textAttribute, isEmptyCaption, hdropped, hholds]
  cases caption children <;> rfl

theorem shortened_shownCaption {all : Prop} {less more : Text} (h : Shortened all less more) (config : Config)
    (control : Option Control) : Shortened all (shownCaption config control less) (shownCaption config control more) := by
  unfold shownCaption
  split
  · exact h.flatMap upperForm_ne_nil
  · exact h

theorem shortened_captionLine {all : Prop} {less more : Text} (h : Shortened all less more) (config : Config) (depth : Nat)
    (name : Text) (attributes : Entries Text) :
    Shortened all (captionLine config depth name attributes less) (captionLine config depth name attributes more) := by
  have hescaped := (shortened_shownCaption h config (control? name attributes)).flatMap escapeChar_ne_nil
  unfold captionLine
  extract_lets control
  rw [startText, startText, List.flatMap_cons, List.flatMap_cons, attributeText, attributeText, escape, escape]
  refine .append_right (.append_left (.append_left (.append_right (.append_right ?_ _) _) _) _) _
  exact hescaped.append_left _

theorem shortened_captionLines {all : Prop} {less more : Text} (h : Shortened all less more) (config : Config) (depth : Nat)
    (name : Text) (attributes : Entries Text) :
    Shortened all (inRows (if less = [] then [] else [captionLine config depth name attributes less]))
      (inRows (if more = [] then [] else [captionLine config depth name attributes more])) := by
  by_cases hmore : more = []
  · subst hmore
    obtain rfl := List.sublist_nil.mp h.sublist
    exact .refl (h.eq_iff.mp rfl) _
  rw [if_neg hmore, inRows_singleton]
  by_cases hless : less = []
  · subst hless
    refine ⟨List.nil_sublist _, iff_of_false (List.cons_ne_nil _ _).symm fun hall => ?_⟩
    exact hmore (h.eq_iff.mpr hall).symm
  · rw [if_neg hless, inRows_singleton]
    exact (shortened_captionLine h config depth name attributes).append_left ['\n']

theorem lines_elementLines (config : Config) (parent : Option Control) (depth : Nat) {name : Text} {attributes : Entries Text}
    (hdropped : isDropped name = false) (hholds : holdsText (control? name attributes) = false) (children : List Node) :
    lines config parent depth (.element name attributes children) =
      elementLines depth (tagOf name (control? name attributes))
        (startText (tagOf name (control? name attributes)) (startAttributes config (control? name attributes) attributes []))
        (listLines config (control? name attributes) (depth + 1) children) := by
  rw [lines, startAttributes, startAttributes, textAttribute, textAttribute, isEmptyCaption, hdropped, hholds]
  rfl

/-- The lines of a document without its dropped elements are its lines, with less text in some labels and buttons. -/
theorem shortened_lines (config : Config) :
    (∀ node parent depth,
      Shortened (∀ children ∈ captioned node, caption (listWithoutDropped children) = caption children)
        (inRows (listLines config parent depth (withoutDropped node))) (inRows (lines config parent depth node))) ∧
      ∀ nodes parent depth,
        Shortened (∀ children ∈ listCaptioned nodes, caption (listWithoutDropped children) = caption children)
          (inRows (listLines config parent depth (listWithoutDropped nodes)))
          (inRows (listLines config parent depth nodes)) := by
  apply Node.induction
  case element =>
    intro name attributes children ih parent depth
    rw [withoutDropped, captioned]
    cases hdropped : isDropped name with
    | true =>
      have hlines : lines config parent depth (.element name attributes children) = [] := by
        rw [lines, hdropped]
        rfl
      rw [if_pos rfl, if_pos rfl, hlines]
      exact .refl (List.forall_mem_nil _) _
    | false =>
      rw [if_neg Bool.false_ne_true, if_neg Bool.false_ne_true, listLines, listLines, List.append_nil]
      cases hholds : holdsText (control? name attributes) with
      | false =>
        rw [lines_elementLines config parent depth hdropped hholds, lines_elementLines config parent depth hdropped hholds]
        exact shortened_elementLines (ih _ _) _ _ _
      | true =>
        rw [lines_caption config parent depth hdropped hholds, lines_caption config parent depth hdropped hholds]
        refine shortened_captionLines ⟨caption_listWithoutDropped children, ?_⟩ _ _ _ _
        rw [if_pos rfl, List.forall_mem_singleton]
  case text =>
    intro kind content parent depth
    rw [withoutDropped, listLines, listLines, List.append_nil]
    · exact .refl (by simp [captioned]) _
    · simp
  case hidden =>
    intro content parent depth
    rw [withoutDropped, listLines, listLines, List.append_nil]
    · exact .refl (by simp [captioned]) _
    · simp
  case nil => exact fun _ _ => .refl (by simp [listCaptioned]) _
  case cons =>
    intro node nodes ihNode ihNodes parent depth
    rw [listWithoutDropped, listLines_append, listLines, inRows_append, inRows_append, listCaptioned]
    simp only [List.forall_mem_append]
    exact (ihNode parent depth).append (ihNodes parent depth)

/--
When the dropped elements are deleted beforehand, a document can only lose characters. It is the same exactly when the text of every label and button is the same without the dropped elements inside it.
-/
theorem ofDocument_deleteDropped (config : Config) (document : List Node) :
    (ofDocument config (deleteDropped document)).Sublist (ofDocument config document) ∧
      (ofDocument config (deleteDropped document) = ofDocument config document ↔
        ∀ children ∈ listCaptioned (body document), caption (listWithoutDropped children) = caption children) := by
  have hbody : body (deleteDropped document) = listWithoutDropped (body document) :=
    body_mapBody elementNames_withoutDropped.2 document
  rw [ofDocument_eq, ofDocument_eq, hbody]
  obtain ⟨hsublist, heq⟩ := (((shortened_lines config).2 (body document) none 1).append_right (inRows [closing, []])).append_left opening
  exact ⟨hsublist, heq⟩

/-- A paragraph with a title in it. -/
def titledParagraph : List Node := [.element "p" [] [.text .ordinary "a", .element "title" [] [.text .ordinary "b"]]]

/-- The text of the title is part of the label. -/
theorem ofDocument_deleteDropped_titledParagraph :
    (Html.document? "<p>a<title>b</title></p>").map (fun document =>
        (ofDocument .empty document, ofDocument .empty (deleteDropped document))) =
      some (opening ++ "\n\t<ui:Label text=\"ab\"/>\n" ++ closing ++ "\n",
        opening ++ "\n\t<ui:Label text=\"a\"/>\n" ++ closing ++ "\n") ∧
      ¬∀ (config : Config) (document : List Node),
        ofDocument config (deleteDropped document) = ofDocument config document := by
  refine ⟨by decide +kernel, fun h => ?_⟩
  have hsame := h .empty titledParagraph
  revert hsame
  decide

end Uxml
end UiToolkit
