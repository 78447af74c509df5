import UiToolkit.Html.Node

/-!
# The nodes that a document shows

They stand in the body of a document or, without one, in its root. Other nodes can be put in their place: if these bring no element of a new name in, the document then shows them and is otherwise as it was.
-/

namespace UiToolkit.Html

namespace Node

/-- A property of nodes and one of lists of nodes that carry each other through a tree. -/
theorem induction {p : Node → Prop} {q : List Node → Prop}
    (element : ∀ name attributes children, q children → p (.element name attributes children))
    (text : ∀ kind content, p (.text kind content)) (hidden : ∀ content, p (.hidden content)) (nil : q [])
    (cons : ∀ node nodes, p node → q nodes → q (node :: nodes)) : (∀ node, p node) ∧ ∀ nodes, q nodes :=
  ⟨@Node.rec p q element text hidden nil cons, @Node.rec_1 p q element text hidden nil cons⟩

theorem listElements_append (front rest : List Node) :
    listElements (front ++ rest) = listElements front ++ listElements rest := by
  induction front with
  | nil => rfl
  | cons node nodes ih => rw [List.cons_append, listElements, listElements, ih, List.append_assoc]

theorem plainTexts_append (front rest : List Node) :
    plainTexts (front ++ rest) = plainTexts front ++ plainTexts rest := by
  induction front with
  | nil => rfl
  | cons node nodes ih => rw [List.cons_append, plainTexts, plainTexts, ih, List.append_assoc]

/-! ### Other children for one element -/

mutual

/-- The node with other children in its first element of the name, `none` if it has no such element. -/
def mapFirst? (name : Text) (f : List Node → List Node) : Node → Option Node
  | .element n attributes children =>
    if n == name then some (.element n attributes (f children))
    else (mapFirstOf? name f children).map (.element n attributes)
  | _ => none

def mapFirstOf? (name : Text) (f : List Node → List Node) : List Node → Option (List Node)
  | [] => none
  | node :: nodes =>
    match mapFirst? name f node with
    | some changed => some (changed :: nodes)
    | none => (mapFirstOf? name f nodes).map (node :: ·)

end

def elementNames (nodes : List Node) : List Text := (listElements nodes).map (·.name)

/-- The first element of the name has other children afterwards, and no name is new. -/
structure Changed (name : Text) (f : List Node → List Node) (before after : List Element) (e : Element) : Prop where
  found : before.find? (·.name == name) = some e
  changed : after.find? (·.name == name) = some ⟨e.name, e.attributes, f e.children⟩
  names : after.map (·.name) ⊆ before.map (·.name)

variable {name : Text} {f : List Node → List Node}

theorem Changed.cons {before after : List Element} {e : Element} (h : Changed name f before after e) {first first' : Element}
    (hname : first'.name = first.name) (hne : first.name ≠ name) : Changed name f (first :: before) (first' :: after) e where
  found := by rw [List.find?_cons_of_neg (by simpa using hne), h.found]
  changed := by rw [List.find?_cons_of_neg (by simpa [hname] using hne), h.changed]
  names := by
    rw [List.map_cons, List.map_cons, hname]
    exact List.cons_subset_cons _ h.names

theorem Changed.append_right {before after : List Element} {e : Element} (h : Changed name f before after e)
    (rest : List Element) : Changed name f (before ++ rest) (after ++ rest) e where
  found := by rw [List.find?_append, h.found, Option.some_or]
  changed := by rw [List.find?_append, h.changed, Option.some_or]
  names := by
    rw [List.map_append, List.map_append]
    exact List.append_subset.mpr ⟨List.subset_append_of_subset_left _ h.names, List.subset_append_right _ _⟩

theorem Changed.append_left {before after : List Element} {e : Element} (h : Changed name f before after e)
    {front : List Element} (hfront : front.find? (·.name == name) = none) :
    Changed name f (front ++ before) (front ++ after) e where
  found := by rw [List.find?_append, hfront, Option.none_or, h.found]
  changed := by rw [List.find?_append, hfront, Option.none_or, h.changed]
  names := by
    rw [List.map_append, List.map_append]
    exact List.append_subset.mpr ⟨List.subset_append_left _ _, List.subset_append_of_subset_right _ h.names⟩

theorem mapFirst?_cases (name : Text) (hf : ∀ nodes, elementNames (f nodes) ⊆ elementNames nodes) :
    (∀ node, mapFirst? name f node = none ∧ (elements node).find? (·.name == name) = none ∨
      ∃ changed e, mapFirst? name f node = some changed ∧ Changed name f (elements node) (elements changed) e) ∧
    ∀ nodes, mapFirstOf? name f nodes = none ∧ (listElements nodes).find? (·.name == name) = none ∨
      ∃ changed e, mapFirstOf? name f nodes = some changed ∧ Changed name f (listElements nodes) (listElements changed) e := by
  apply induction
  case element =>
    intro n attributes children ih
    rw [mapFirst?, elements]
    by_cases hname : n = name
    · subst hname
      refine .inr ⟨.element n attributes (f children), ⟨n, attributes, children⟩, by simp, by simp, by simp [elements], ?_⟩
      rw [elements, List.map_cons, List.map_cons]
      exact List.cons_subset_cons _ (hf children)
    · rw [if_neg (by simpa using hname)]
      rcases ih with ⟨hnone, hfind⟩ | ⟨changed, e, hsome, hchanged⟩
      · exact .inl ⟨by rw [hnone]; rfl, by rw [List.find?_cons_of_neg (by simpa using hname), hfind]⟩
      · refine .inr ⟨.element n attributes changed, e, by rw [hsome]; rfl, ?_⟩
        exact hchanged.cons rfl hname
  case text => exact fun _ _ => .inl ⟨rfl, rfl⟩
  case hidden => exact fun _ => .inl ⟨rfl, rfl⟩
  case nil => exact .inl ⟨rfl, rfl⟩
  case cons =>
    intro node nodes ihNode ihNodes
    rw [mapFirstOf?, listElements]
    rcases ihNode with ⟨hnone, hfind⟩ | ⟨changed, e, hsome, hchanged⟩
    · rw [hnone]
      rcases ihNodes with ⟨hnone', hfind'⟩ | ⟨changed, e, hsome, hchanged⟩
      · exact .inl ⟨by rw [hnone']; rfl, by rw [List.find?_append, hfind, hfind']; rfl⟩
      · exact .inr ⟨node :: changed, e, by rw [hsome]; rfl, hchanged.append_left hfind⟩
    · rw [hsome]
      exact .inr ⟨changed :: nodes, e, rfl, hchanged.append_right _⟩

end Node

open Node

/-- The document with other nodes in place of those that it shows. -/
def mapBody (f : List Node → List Node) (document : List Node) : List Node :=
  (mapFirstOf? "body" f document <|> mapFirstOf? "html" f document).getD (f document)

theorem find?_eq_none_of_subset {name : Text} {before after : List Element} (hnames : after.map (·.name) ⊆ before.map (·.name))
    (h : before.find? (·.name == name) = none) : after.find? (·.name == name) = none := by
  rw [List.find?_eq_none] at h ⊢
  intro e he
  obtain ⟨e', he', hname⟩ := List.mem_map.mp (hnames (List.mem_map_of_mem he))
  rw [← hname]
  exact h e' he'

theorem body_mapBody {f : List Node → List Node} (hf : ∀ nodes, elementNames (f nodes) ⊆ elementNames nodes)
    (document : List Node) : body (mapBody f document) = f (body document) := by
  unfold mapBody body
  dsimp only
  rcases (mapFirst?_cases "body" hf).2 document with ⟨hnone, hfind⟩ | ⟨changed, e, hsome, hchanged⟩
  · rw [hnone, hfind, Option.orElse_eq_orElse, Option.orElse_eq_or, Option.none_or]
    rcases (mapFirst?_cases "html" hf).2 document with ⟨hnone', hfind'⟩ | ⟨changed, e, hsome, hchanged⟩
    · rw [hnone', hfind', Option.getD_none, find?_eq_none_of_subset (hf document) hfind,
        find?_eq_none_of_subset (hf document) hfind']
    · rw [hsome, hchanged.found, Option.getD_some, hchanged.changed, find?_eq_none_of_subset hchanged.names hfind]
  · rw [hsome, hchanged.found, Option.orElse_eq_orElse, Option.orElse_eq_or, Option.some_or, Option.getD_some,
      hchanged.changed]

end UiToolkit.Html
