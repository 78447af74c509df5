import UiToolkit.Proofs.DocumentTrees
import UiToolkit.Proofs.Words
import UiToolkit.Uxml.Document

/-!
# The items of a document

The lines for a node are whole items: texts, elements that close themselves, and elements with items between their tags, one level deeper. Which elements these are is told by a list of the nodes that are reached, each of them looked at on its own.
-/

namespace UiToolkit

open Text Html

namespace Uxml

/-! ### Items -/

/-- One tab for each level, and then something that does not begin with a blank. -/
def IsLineAt (level : Nat) (content line : Text) : Prop :=
  line = indent level ++ content ∧ ∃ c ∈ content.head?, isBlank c = false

/-- Lines that are a sequence of whole items, the first of them at the given level, with the names of their elements in order. -/
inductive AreItems : Nat → List Text → List Text → Prop
  | nil (level : Nat) : AreItems level [] []
  | text {level : Nat} {content line : Text} {ls names : List Text} (htext : '<' ∉ content)
      (hline : IsLineAt level content line) (rest : AreItems level ls names) : AreItems level (line :: ls) names
  | closed {level : Nat} {name line : Text} {attributes : List (Text × Text)} {ls names : List Text}
      (hline : IsLineAt level (startText name attributes ++ "/>") line) (rest : AreItems level ls names) :
      AreItems level (line :: ls) (name :: names)
  | opened {level : Nat} {name first last : Text} {attributes : List (Text × Text)}
      {inner innerNames ls names : List Text} (hfirst : IsLineAt level (startText name attributes ++ ">") first)
      (hinner : inner ≠ []) (items : AreItems (level + 1) inner innerNames)
      (hlast : IsLineAt level ("</" ++ name ++ ">") last) (rest : AreItems level ls names) :
      AreItems level (first :: inner ++ last :: ls) (name :: innerNames ++ names)

theorem AreItems.append {level : Nat} {front rest frontNames restNames : List Text} (hfront : AreItems level front frontNames)
    (hrest : AreItems level rest restNames) : AreItems level (front ++ rest) (frontNames ++ restNames) := by
  induction hfront with
  | nil => exact hrest
  | text htext hline _ ih => exact .text htext hline (ih hrest)
  | closed hline _ ih => exact .closed hline (ih hrest)
  | opened hfirst hinner items hlast _ _ ih =>
    rw [List.append_assoc, List.append_assoc]
    exact .opened hfirst hinner items hlast (ih hrest)

theorem isLineAt_startText (level : Nat) (tag : Text) (attributes : List (Text × Text)) (ending : Text) :
    IsLineAt level (startText tag attributes ++ ending) (indent level ++ startText tag attributes ++ ending) :=
  ⟨List.append_assoc _ _ _, '<', rfl, by decide⟩

theorem isLineAt_endTag (level : Nat) (tag : Text) :
    IsLineAt level ("</" ++ tag ++ ">") (indent level ++ "</" ++ tag ++ ">") :=
  ⟨by simp only [List.append_assoc], '<', rfl, by decide⟩

theorem areItems_closed (level : Nat) (tag : Text) (attributes : List (Text × Text)) :
    AreItems level [indent level ++ startText tag attributes ++ "/>"] [tag] :=
  .closed (isLineAt_startText level tag attributes "/>") (.nil level)

theorem areItems_elementLines {level : Nat} {inner names : List Text} (items : AreItems (level + 1) inner names) (tag : Text)
    (attributes : List (Text × Text)) : AreItems level (elementLines level tag (startText tag attributes) inner) (tag :: names) := by
  rw [elementLines]
  split
  · rename_i hempty
    obtain rfl := List.isEmpty_iff.mp hempty
    cases items
    exact areItems_closed level tag attributes
  · rename_i hinner
    have hnames : tag :: names = tag :: names ++ [] := (List.append_nil _).symm
    rw [hnames, List.append_assoc]
    exact .opened (isLineAt_startText level tag attributes ">") (by simpa using hinner) items (isLineAt_endTag level tag)
      (.nil level)

/-! ### The line of a text -/

theorem escapeChar_cases (c : Char) : (escapeChar c = [c] ∧ c ≠ '<') ∨ ∃ name, escapeChar c = '&' :: name ∧ '<' ∉ name := by
  unfold escapeChar
  split_ifs with _ hlt
  case neg => exact .inl ⟨rfl, by simpa using hlt⟩
  all_goals exact .inr ⟨_, rfl, by decide⟩

theorem lt_notMem_escape (s : Text) : '<' ∉ escape s := by
  intro h
  obtain ⟨c, -, hc⟩ := List.mem_flatMap.mp h
  rcases escapeChar_cases c with ⟨hself, hne⟩ | ⟨name, hname, hlt⟩
  · rw [hself] at hc
    exact hne (List.mem_singleton.mp hc).symm
  · rw [hname] at hc
    exact hlt ((List.mem_cons.mp hc).resolve_left (by decide))

/-- What a text without blanks at its ends becomes does not begin with a blank. -/
theorem exists_head?_escape {s : Text} (hne : s ≠ []) (hhead : ∀ c ∈ s.head?, isBlank c = false) :
    ∃ c ∈ (escape s).head?, isBlank c = false := by
  cases s with
  | nil => exact absurd rfl hne
  | cons c s =>
    rw [escape, List.flatMap_cons]
    rcases escapeChar_cases c with ⟨hself, -⟩ | ⟨name, hname, -⟩
    · rw [hself]
      exact ⟨c, rfl, hhead c rfl⟩
    · rw [hname]
      exact ⟨'&', rfl, by decide⟩

theorem isLineAt_escape (level : Nat) {content : Text} (h : isBlankText content = false) :
    IsLineAt level (escape (trim content)) (indent level ++ escape (trim content)) := by
  refine ⟨rfl, exists_head?_escape (fun htrim => ?_) fun c hc => head?_trim hc⟩
  obtain ⟨a, b, hcontent, ha, hb⟩ := exists_eq_trim content
  rw [htrim, List.nil_append] at hcontent
  rw [isBlankText, hcontent, List.all_append, List.all_eq_true.mpr ha, List.all_eq_true.mpr hb] at h
  exact Bool.noConfusion h

/-! ### The nodes that are reached -/

mutual

/-- A node inside the given element and, in document order, the nodes below it that are not below a dropped element, a label or a button, each with the element that it stands in. -/
def reached (parent : Option Control) : Node → List (Option Control × Node)
  | .element name attributes children =>
    let control := control? name attributes
    (parent, .element name attributes children) ::
      if isDropped name || holdsText control then [] else listReached control children
  | node => [(parent, node)]

def listReached (parent : Option Control) : List Node → List (Option Control × Node)
  | [] => []
  | node :: nodes => reached parent node ++ listReached parent nodes

end

/-- The name of the element that the document has for a node inside the given element, if it has one. -/
def shownName? : Option Control × Node → Option Text
  | (_, .element name attributes children) =>
    let control := control? name attributes
    if isDropped name || isEmptyCaption control children then none else some (tagOf name control)
  | (parent, .text kind content) =>
    if kind ≠ .cdata ∧ parent = some .visualElement ∧ isBlankText content = false then some Control.label.tag else none
  | (_, .hidden _) => none

theorem areItems_textLines (parent : Option Control) (level : Nat) {kind : TextKind} (hkind : kind ≠ .cdata) (content : Text) :
    AreItems level (textLines parent level content) ([(parent, Node.text kind content)].filterMap shownName?) := by
  unfold textLines
  extract_lets text
  cases hblank : isBlankText content with
  | true => simpa [shownName?, hblank] using AreItems.nil level
  | false =>
    rw [if_neg Bool.false_ne_true]
    by_cases hparent : parent = some .visualElement
    · rw [if_pos (by simpa using hparent)]
      simpa [shownName?, hblank, hkind, hparent] using areItems_closed level Control.label.tag [("text", trim content)]
    · rw [if_neg (by simpa using hparent)]
      simpa [shownName?, hparent] using
        AreItems.text (lt_notMem_escape _) (isLineAt_escape level hblank) (.nil level)

theorem areItems_nodes (config : Config) :
    (∀ node parent level, AreItems level (lines config parent level node) ((reached parent node).filterMap shownName?)) ∧
      ∀ nodes parent level,
        AreItems level (listLines config parent level nodes) ((listReached parent nodes).filterMap shownName?) := by
  apply Node.induction
  case element =>
    intro name attributes children ih parent level
    rw [lines, reached, List.filterMap_cons, shownName?]
    generalize control? name attributes = control
    cases hleft : isDropped name || isEmptyCaption control children with
    | true =>
      have hheld : (isDropped name || holdsText control) = true := by
        rw [isEmptyCaption, Bool.or_and_distrib_left, Bool.and_eq_true] at hleft
        exact hleft.1
      rw [hheld]
      exact .nil level
    | false =>
      have hdropped : isDropped name = false := (Bool.or_eq_false_iff.mp hleft).1
      rw [hdropped, Bool.false_or]
      cases holdsText control with
      | true => exact areItems_closed level _ _
      | false => exact areItems_elementLines (ih control (level + 1)) _ _
  case text =>
    intro kind content parent level
    by_cases hkind : kind = .cdata
    · subst hkind
      exact .nil level
    · have hlines : lines config parent level (.text kind content) = textLines parent level content := by
        rw [lines]
        exact hkind
      rw [hlines]
      exact areItems_textLines parent level hkind content
  case hidden => exact fun content parent level => .nil level
  case nil => exact fun parent level => .nil level
  case cons =>
    intro node nodes ihNode ihNodes parent level
    rw [listLines, listReached, List.filterMap_append]
    exact (ihNode parent level).append (ihNodes parent level)

/-- The lines for a node are whole items, and the names of their elements are those of the nodes that are reached. -/
theorem areItems_lines (config : Config) (parent : Option Control) (level : Nat) (node : Node) :
    AreItems level (lines config parent level node) ((reached parent node).filterMap shownName?) :=
  (areItems_nodes config).1 node parent level

/-- A container with a text, a paragraph without text and a heading. -/
example : (reached none (.element "div" [] [.text .ordinary "a", .element "p" [] [],
    .element "h1" [] [.text .ordinary "b"]])).filterMap shownName? =
      [Control.visualElement.tag, Control.label.tag, Control.label.tag] := by
  decide

end Uxml

end UiToolkit
