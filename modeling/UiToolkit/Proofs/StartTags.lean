import Mathlib.Data.List.Nodup
import UiToolkit.Uxml.Document

/-!
# Attributes of start tags

The attributes of a start tag come from three places: the text of a label or a button, the attributes of the element under their names in UXML, and the option for text fields. Nothing compares the names from one place with those from another, so an element that has an attribute under both of its names, or one that is added to it as well, gets a start tag with a name in it twice. Other elements do not.
-/

namespace UiToolkit.Uxml

open Text

/-! ### Kept attributes -/

def keptNames (names : List Text) : List Text :=
  (names.filter fun name => !droppedAttributes.contains (lower name)).map attributeName

theorem map_fst_keptAttributes (attributes : Entries Text) :
    (keptAttributes attributes).map Prod.fst = keptNames (Entries.names attributes) := by
  rw [keptAttributes, keptNames, Entries.names, List.filter_map, List.map_map, List.map_map]
  rfl

/-- Two attributes with one name in UXML. -/
def HasTwin (names : List Text) : Prop :=
  ("id".toList ∈ names ∧ "name".toList ∈ names) ∨ ("placeholder".toList ∈ names ∧ "placeholder-text".toList ∈ names)

instance (names : List Text) : Decidable (HasTwin names) := inferInstanceAs (Decidable (_ ∨ _))

theorem attributeName_cases {name : Text} (h : lower name = name) :
    (name = "id".toList ∧ attributeName name = "name".toList) ∨
      (name = "placeholder".toList ∧ attributeName name = "placeholder-text".toList) ∨
      (name ≠ "id".toList ∧ name ≠ "placeholder".toList ∧ attributeName name = name) := by
  rw [attributeName, h]
  by_cases hid : name = "id".toList
  · exact .inl ⟨hid, if_pos (beq_iff_eq.mpr hid)⟩
  · by_cases hplaceholder : name = "placeholder".toList
    · subst hplaceholder
      exact .inr (.inl ⟨rfl, rfl⟩)
    · exact .inr (.inr ⟨hid, hplaceholder, by
        rw [beq_false_of_ne hid, beq_false_of_ne hplaceholder, if_neg Bool.false_ne_true, if_neg Bool.false_ne_true]⟩)

variable {names : List Text}

/-- A name that no attribute is given in place of its own stands for itself. -/
theorem mem_keptNames_iff (hlower : ∀ name ∈ names, lower name = name) (name : Text)
    (hkept : droppedAttributes.contains (lower name) = false) (hself : attributeName name = name)
    (hnew : name ≠ "name".toList ∧ name ≠ "placeholder-text".toList) : name ∈ keptNames names ↔ name ∈ names := by
  constructor
  · intro h
    obtain ⟨source, hsource, heq⟩ := List.mem_map.mp h
    have hmem := (List.mem_filter.mp hsource).1
    rcases attributeName_cases (hlower source hmem) with ⟨-, hname⟩ | ⟨-, hname⟩ | ⟨-, -, hname⟩
    · exact absurd (heq.symm.trans hname) hnew.1
    · exact absurd (heq.symm.trans hname) hnew.2
    · rwa [← heq, hname]
  · intro h
    exact List.mem_map.mpr ⟨name, List.mem_filter.mpr ⟨h, by rw [hkept]; rfl⟩, hself⟩

theorem nodup_keptNames_iff (hnodup : names.Nodup) (hlower : ∀ name ∈ names, lower name = name) :
    (keptNames names).Nodup ↔ ¬HasTwin names := by
  have hmem : ∀ name ∈ names, droppedAttributes.contains (lower name) = false →
      name ∈ names.filter fun name => !droppedAttributes.contains (lower name) := by
    intro name hname hkept
    exact List.mem_filter.mpr ⟨hname, by rw [hkept]; rfl⟩
  rw [keptNames, List.nodup_map_iff_inj_on (hnodup.filter _)]
  constructor
  · rintro hinjective (⟨hid, hname⟩ | ⟨hplaceholder, htext⟩)
    · have := hinjective _ (hmem _ hid (by decide)) _ (hmem _ hname (by decide)) (by decide)
      exact absurd this (by decide)
    · have :=
        hinjective _ (hmem _ hplaceholder (by decide)) _ (hmem _ htext (by decide)) (by decide)
      exact absurd this (by decide)
  · intro htwin a ha b hb heq
    have ha := (List.mem_filter.mp ha).1
    have hb := (List.mem_filter.mp hb).1
    rcases attributeName_cases (hlower a ha) with ⟨rfl, hnameA⟩ | ⟨rfl, hnameA⟩ | ⟨-, -, hnameA⟩ <;>
      rcases attributeName_cases (hlower b hb) with ⟨rfl, hnameB⟩ | ⟨rfl, hnameB⟩ | ⟨-, -, hnameB⟩ <;>
      have heq := hnameA.symm.trans (heq.trans hnameB)
    · rfl
    · exact absurd heq (by decide)
    · exact absurd (.inl ⟨ha, heq ▸ hb⟩) htwin
    · exact absurd heq (by decide)
    · rfl
    · exact absurd (.inr ⟨ha, heq ▸ hb⟩) htwin
    · exact absurd (.inl ⟨hb, heq ▸ ha⟩) htwin
    · exact absurd (.inr ⟨hb, heq ▸ ha⟩) htwin
    · exact heq

/-! ### All attributes -/

/-- An attribute comes to a name that is there already. -/
def HasClash (config : Config) (control : Option Control) (names : List Text) : Prop :=
  HasTwin names ∨ (holdsText control = true ∧ "text".toList ∈ names) ∨
    (config.focusable.isSome = true ∧ control = some .textField ∧ "focusable".toList ∈ names)

instance (config : Config) (control : Option Control) (names : List Text) : Decidable (HasClash config control names) :=
  inferInstanceAs (Decidable (_ ∨ _))

/-- The names in the start tag of an element. -/
def startNames (config : Config) (name : Text) (attributes : Entries Text) (children : List Html.Node) : List Text :=
  (startAttributes config (control? name attributes) attributes children).map Prod.fst

theorem startNames_eq (config : Config) (name : Text) (attributes : Entries Text) (children : List Html.Node) :
    startNames config name attributes children =
      (if holdsText (control? name attributes) then ["text".toList] else []) ++ keptNames (Entries.names attributes) ++
        (if config.focusable.isSome ∧ control? name attributes = some .textField then ["focusable".toList] else []) := by
  rw [startNames, startAttributes, List.map_append, List.map_append, map_fst_keptAttributes]
  congr 1
  · congr 1
    rw [textAttribute]
    split <;> rfl
  · rw [focusableAttribute]
    cases config.focusable with
    | none => rfl
    | some focusable =>
      by_cases hfield : control? name attributes = some .textField
      · rw [hfield]
        rfl
      · simp [hfield]

theorem nodup_startNames_iff (config : Config) (name : Text) {attributes : Entries Text} (children : List Html.Node)
    (hnodup : (Entries.names attributes).Nodup) (hlower : ∀ n ∈ Entries.names attributes, lower n = n) :
    (startNames config name attributes children).Nodup ↔
      ¬HasClash config (control? name attributes) (Entries.names attributes) := by
  have htext := mem_keptNames_iff hlower "text".toList (by decide) (by decide) (by decide)
  have hfocusable := mem_keptNames_iff hlower "focusable".toList (by decide) (by decide) (by decide)
  have hkept := nodup_keptNames_iff hnodup hlower
  rw [startNames_eq, HasClash, not_or, not_or, ← hkept]
  cases htextual : holdsText (control? name attributes) with
  | true =>
    have hfield : control? name attributes ≠ some .textField := by
      intro heq
      rw [heq] at htextual
      cases htextual
    rw [if_pos rfl, if_neg fun h => hfield h.2, List.append_nil, List.singleton_append, List.nodup_cons, htext]
    simp [hfield, and_comm]
  | false =>
    rw [if_neg Bool.false_ne_true, List.nil_append]
    by_cases hfield : config.focusable.isSome = true ∧ control? name attributes = some .textField
    · rw [if_pos hfield, ← List.concat_eq_append, List.nodup_concat, hfocusable]
      simp [hfield.1, hfield.2, and_comm]
    · rw [if_neg hfield, List.append_nil]
      exact ⟨fun h => ⟨h, fun h => Bool.false_ne_true h.1, fun h => hfield ⟨h.1, h.2.1⟩⟩, And.left⟩

theorem exists_lines_eq_of_written (config : Config) {name : Text} {attributes : Entries Text} {children : List Html.Node}
    (hleft : (isDropped name || isEmptyCaption (control? name attributes) children) = false) (parent : Option Control)
    (depth : Nat) :
    ∃ ending inner, (ending = "/>".toList ∨ ending = ">".toList) ∧
      lines config parent depth (.element name attributes children) =
        (indent depth ++ startText (tagOf name (control? name attributes))
          (startAttributes config (control? name attributes) attributes children) ++ ending) :: inner := by
  rw [lines, hleft, if_neg Bool.false_ne_true]
  split
  · exact ⟨"/>", [], .inl rfl, rfl⟩
  · rw [elementLines]
    split
    · exact ⟨"/>", [], .inl rfl, rfl⟩
    · exact ⟨">", _, .inr rfl, rfl⟩

theorem exists_lines_eq {config : Config} {parent : Option Control} {depth : Nat} {name : Text} {attributes : Entries Text}
    {children : List Html.Node} (h : lines config parent depth (.element name attributes children) ≠ []) :
    ∃ ending inner, lines config parent depth (.element name attributes children) =
      (indent depth ++ startText (tagOf name (control? name attributes))
        (startAttributes config (control? name attributes) attributes children) ++ ending) :: inner := by
  have hleft : (isDropped name || isEmptyCaption (control? name attributes) children) = false := by
    refine Bool.eq_false_iff.mpr fun hleft => h ?_
    rw [lines, hleft, if_pos rfl]
  obtain ⟨ending, inner, -, heq⟩ := exists_lines_eq_of_written config hleft parent depth
  exact ⟨ending, inner, heq⟩

/-- What is emitted for an element begins with a start tag, which has no name twice exactly when no attribute clashes. -/
theorem startTag_nodup_iff (config : Config) (parent : Option Control) (depth : Nat) (name : Text)
    (attributes : Entries Text) (children : List Html.Node) (hnodup : (Entries.names attributes).Nodup)
    (hlower : ∀ n ∈ Entries.names attributes, lower n = n)
    (hemitted : lines config parent depth (.element name attributes children) ≠ []) :
    (∃ ending inner, lines config parent depth (.element name attributes children) =
      (indent depth ++ startText (tagOf name (control? name attributes))
        (startAttributes config (control? name attributes) attributes children) ++ ending) :: inner) ∧
      ((startNames config name attributes children).Nodup ↔
        ¬HasClash config (control? name attributes) (Entries.names attributes)) :=
  ⟨exists_lines_eq hemitted, nodup_startNames_iff config name children hnodup hlower⟩

/-! ### An element with an identifier and a name -/

/-- Both attributes come to a name in UXML. -/
def twinAttributes : Entries Text := [("id", "a"), ("name", "b")]

theorem startTag_nodup_iff_twins :
    lines .empty none 1 (.element "p" twinAttributes [.text .ordinary "x"]) ≠ [] ∧
      (∃ ending inner, lines .empty none 1 (.element "p" twinAttributes [.text .ordinary "x"]) =
        (indent 1 ++ startText (tagOf "p" (control? "p" twinAttributes))
          (startAttributes .empty (control? "p" twinAttributes) twinAttributes [.text .ordinary "x"]) ++ ending) :: inner) ∧
      ((startNames .empty "p" twinAttributes [.text .ordinary "x"]).Nodup ↔
        ¬HasClash .empty (control? "p" twinAttributes) (Entries.names twinAttributes)) := by
  have hemitted : lines .empty none 1 (.element "p" twinAttributes [.text .ordinary "x"]) ≠ [] := by decide
  exact ⟨hemitted, startTag_nodup_iff .empty none 1 "p" twinAttributes [.text .ordinary "x"] (by decide)
    (by decide) hemitted⟩

/-- The label has its name twice. -/
theorem not_nodup_twins :
    (Html.document? "<p id=\"a\" name=\"b\">x</p>").map (ofDocument .empty) =
        some (opening ++ "\n\t<ui:Label text=\"x\" name=\"a\" name=\"b\"/>\n" ++ closing ++ "\n") ∧
      ¬∀ (config : Config) (parent : Option Control) (depth : Nat) (name : Text) (attributes : Entries Text)
        (children : List Html.Node), (Entries.names attributes).Nodup → (∀ n ∈ Entries.names attributes, lower n = n) →
        lines config parent depth (.element name attributes children) ≠ [] →
        (startNames config name attributes children).Nodup := by
  refine ⟨by decide +kernel, fun h => ?_⟩
  have hnodup := h .empty none 1 "p" twinAttributes [.text .ordinary "x"] (by decide) (by decide)
    (by decide)
  exact absurd hnodup (by decide)

end UiToolkit.Uxml
