import UiToolkit.Proofs.BlockSafety
import UiToolkit.Proofs.Layers
import UiToolkit.Proofs.Segments

/-!
# Rules are well formed

What is read of a list of rule sources keeps its shape whatever the sources hold. A selector is a part of the selector text without blanks around it, and stays in one part when it is split again; a value is its own source text, classified, and has passed the check for braces and semicolons. A source comes to a rule when a selector and a declaration of it are usable, and the rules stand in the order of their sources.
-/

namespace UiToolkit

open Declaration Text

/-- The text of a selector is visible, has no blanks around it and no comma at the top level, and is what its segments hold. -/
structure Selector.IsWellFormed (s : Selector) : Prop where
  visible : isBlankText s.raw = false
  trimmed : trim s.raw = s.raw
  single : splitTopLevel ',' s.raw = [s.raw]
  segments : s.segmentsText = s.raw

/-- A declaration has a name without blanks around it, and one value that is classified as its own text and holds no brace and no semicolon outside quotes. -/
structure Declaration.IsWellFormed (d : Declaration) : Prop where
  visible : isBlankText d.property = false
  trimmed : trim d.property = d.property
  value : ∃ f, d.value = some f ∧ Fragment.ofText? f.raw = some f ∧
    ∀ c ∈ "\x7b\x7d;".toList, c ∉ dropQuoted f.raw

structure Rule.IsWellFormed (r : Rule) : Prop where
  selectors_ne_nil : r.selectors ≠ []
  declarations_ne_nil : r.declarations ≠ []
  selectors : ∀ s ∈ r.selectors, s.IsWellFormed
  declarations : ∀ d ∈ r.declarations, d.IsWellFormed

/-! ### Which sources count -/

/-- The parts of a selector text that are not blank. -/
def RuleSource.selectorTexts (s : RuleSource) : List Text :=
  ((splitTopLevel ',' s.selector).filter (!isBlankText ·)).map trim

/-- A declaration counts when its name and its value can be seen and no brace and no semicolon breaks out of the value. -/
def Declaration.isUsable (p : Text × Text) : Bool :=
  !isBlankText p.1 && !isBlankText (splitImportance p.2).1 && !breaksOut (splitImportance p.2).1

def RuleSource.isUsable (s : RuleSource) : Bool :=
  !s.selectorTexts.isEmpty && s.declarations.any Declaration.isUsable

/-- The declaration is that of a name and a value: trimmed, with the mark of importance as a flag. -/
def Declaration.IsOf (p : Text × Text) (d : Declaration) : Prop :=
  d.property = trim p.1 ∧ d.text = trim (splitImportance p.2).1 ∧ d.important = (splitImportance p.2).2

/-- The rule has the selectors of the source and its usable declarations, both in order. -/
structure RuleSource.Gives (s : RuleSource) (r : Rule) : Prop where
  selectors : r.selectors.map Selector.raw = s.selectorTexts
  declarations : List.Forall₂ Declaration.IsOf (s.declarations.filter Declaration.isUsable) r.declarations

/-! ### Blank texts -/

theorem Text.isBlankText_trim (s : Text) : isBlankText (trim s) = isBlankText s := by
  obtain ⟨a, b, hs, ha, hb⟩ := exists_eq_trim s
  calc isBlankText (trim s) = isBlankText (a ++ (trim s ++ b)) := by
        rw [isBlankText, isBlankText, List.all_append, List.all_append, List.all_eq_true.mpr ha,
          List.all_eq_true.mpr hb, Bool.true_and, Bool.and_true]
    _ = isBlankText s := by rw [← hs]

theorem Text.isEmpty_trim (s : Text) : (trim s).isEmpty = isBlankText s := by
  cases h : trim s with
  | nil => rw [← isBlankText_trim, h]; rfl
  | cons c cs =>
    rw [← isBlankText_trim, h]
    have hc : isBlank c = false := head?_trim (s := s) (by rw [h]; rfl)
    simp [isBlankText, hc]

/-! ### What is read -/

theorem forall₂_filterMap {α β : Type} {p : α → Bool} {f : α → Option β} {R : α → β → Prop}
    (hsome : ∀ a, p a = (f a).isSome) (hR : ∀ a b, f a = some b → R a b) (l : List α) :
    List.Forall₂ R (l.filter p) (l.filterMap f) := by
  induction l with
  | nil => exact List.Forall₂.nil
  | cons a l ih =>
    rw [List.filter_cons, List.filterMap_cons, hsome]
    cases hf : f a with
    | none => exact ih
    | some b => exact List.Forall₂.cons (hR a b hf) ih

namespace RuleSource

theorem map_raw_selectors (raw : Text) :
    (selectors raw).map Selector.raw = ((splitTopLevel ',' raw).filter (!isBlankText ·)).map trim := by
  have hraw : Selector.raw ∘ Selector.ofText = id := rfl
  have hfilter : ((!·.isEmpty) ∘ trim : Text → Bool) = (!isBlankText ·) := by
    funext part
    rw [Function.comp_apply, isEmpty_trim]
  rw [selectors, List.map_map, hraw, List.map_id, List.filter_map, hfilter]

theorem isWellFormed_of_mem_selectors {raw : Text} {s : Selector} (h : s ∈ selectors raw) : s.IsWellFormed := by
  obtain ⟨text, htext, rfl⟩ := List.mem_map.mp h
  obtain ⟨hmem, hvisible⟩ := List.mem_filter.mp htext
  obtain ⟨part, hpart, rfl⟩ := List.mem_map.mp hmem
  rw [isEmpty_trim, Bool.not_eq_true'] at hvisible
  exact {
    visible := (isBlankText_trim part).trans hvisible
    trimmed := trim_trim part
    single := splitFrom_of_isWhole (isWhole_trim (isWhole_of_mem_splitTopLevel hpart))
    segments := Segment.textOf_scan (trim part) }

end RuleSource

namespace Fragment

theorem ofText?_trim (s : Text) : ofText? (trim s) = ofText? s := by
  rw [ofText?, ofText?, Value.classify?, Value.classify?, trim_trim]

theorem isSome_ofText? (s : Text) : (ofText? s).isSome = !isBlankText s := by
  rw [← isEmpty_trim, ofText?, Value.classify?]
  cases (trim s).isEmpty <;> rfl

end Fragment

namespace Declaration

theorem isUsable_eq (p : Text × Text) : isUsable p = (ofSource? p.1 p.2).isSome := by
  rw [isUsable, ofSource?]
  cases isBlankText p.1 with
  | true => rfl
  | false =>
    cases hbreaks : breaksOut (splitImportance p.2).1 with
    | true => simp [hbreaks]
    | false => simp [hbreaks, Fragment.isSome_ofText?]

theorem exists_fragment_of_ofSource? {property value : Text} {d : Declaration} (h : ofSource? property value = some d) :
    isBlankText property = false ∧ breaksOut (splitImportance value).1 = false ∧
      ∃ f, Fragment.ofText? (splitImportance value).1 = some f ∧
        d = ⟨trim property, some f, (splitImportance value).2⟩ := by
  unfold ofSource? at h
  simp only at h
  split at h
  · cases h
  · rename_i husable
    obtain ⟨f, hf, rfl⟩ := Option.map_eq_some_iff.mp h
    simp only [Bool.or_eq_true, not_or, Bool.not_eq_true] at husable
    exact ⟨husable.1, husable.2, f, hf, rfl⟩

theorem isOf_of_ofSource? {p : Text × Text} {d : Declaration} (h : ofSource? p.1 p.2 = some d) : IsOf p d := by
  obtain ⟨-, -, f, hf, rfl⟩ := exists_fragment_of_ofSource? h
  exact ⟨rfl, Fragment.raw_of_ofText? hf, rfl⟩

theorem isWellFormed_of_ofSource? {property value : Text} {d : Declaration} (h : ofSource? property value = some d) :
    d.IsWellFormed := by
  obtain ⟨hvisible, hsafe, f, hf, rfl⟩ := exists_fragment_of_ofSource? h
  refine ⟨(isBlankText_trim property).trans hvisible, trim_trim property, f, rfl, ?_, ?_⟩
  · rw [Fragment.raw_of_ofText? hf, Fragment.ofText?_trim, hf]
  · intro c hc hmem
    have hstructural : isStructural c = true := (by decide : ∀ c ∈ "\x7b\x7d;".toList, isStructural c = true) c hc
    rw [Fragment.raw_of_ofText? hf] at hmem
    have hbreaks : breaksOut (trim (splitImportance value).1) = true := List.any_eq_true.mpr ⟨c, hmem, hstructural⟩
    rw [breaksOut_trim, hsafe] at hbreaks
    cases hbreaks

end Declaration

namespace RuleSource

theorem forall₂_declared (s : RuleSource) :
    List.Forall₂ Declaration.IsOf (s.declarations.filter Declaration.isUsable) s.declared :=
  forall₂_filterMap Declaration.isUsable_eq (fun _ _ => Declaration.isOf_of_ofSource?) s.declarations

theorem isEmpty_selectors (s : RuleSource) : (selectors s.selector).isEmpty = s.selectorTexts.isEmpty := by
  rw [selectorTexts, ← map_raw_selectors, List.isEmpty_map]

theorem isEmpty_declared (s : RuleSource) : s.declared.isEmpty = !s.declarations.any Declaration.isUsable := by
  rw [Bool.eq_iff_iff, List.isEmpty_iff, declared, List.filterMap_eq_nil_iff, Bool.not_eq_true', List.any_eq_false]
  refine forall₂_congr fun p _ => ?_
  rw [Declaration.isUsable_eq, Bool.not_eq_true, Option.isSome_eq_false_iff, Option.isNone_iff_eq_none]

theorem isUsable_eq (s : RuleSource) : s.isUsable = s.rule?.isSome := by
  rw [isUsable, rule?, ← isEmpty_selectors]
  simp only [isEmpty_declared]
  cases (selectors s.selector).isEmpty <;> cases s.declarations.any Declaration.isUsable <;> rfl

theorem eq_of_rule? {s : RuleSource} {r : Rule} (h : s.rule? = some r) :
    r = ⟨selectors s.selector, s.declared⟩ ∧ r.selectors ≠ [] ∧ r.declarations ≠ [] := by
  unfold rule? at h
  simp only at h
  split at h
  · cases h
  · rename_i hne
    obtain rfl := Option.some.inj h
    simp only [Bool.or_eq_true, List.isEmpty_iff, not_or] at hne
    exact ⟨rfl, hne⟩

theorem gives_of_rule? {s : RuleSource} {r : Rule} (h : s.rule? = some r) : s.Gives r := by
  obtain ⟨rfl, -⟩ := eq_of_rule? h
  exact ⟨map_raw_selectors s.selector, s.forall₂_declared⟩

theorem isWellFormed_of_rule? {s : RuleSource} {r : Rule} (h : s.rule? = some r) : r.IsWellFormed := by
  obtain ⟨rfl, hselectors, hdeclarations⟩ := eq_of_rule? h
  refine ⟨hselectors, hdeclarations, fun _ => isWellFormed_of_mem_selectors, ?_⟩
  intro d hd
  obtain ⟨⟨property, value⟩, -, hsource⟩ := List.mem_filterMap.mp hd
  exact Declaration.isWellFormed_of_ofSource? hsource

end RuleSource

/-- All rules are well formed, and they are those of the usable sources, in order. -/
theorem Rule.ofSources_wellFormed (sources : List RuleSource) :
    (∀ r ∈ Rule.ofSources sources, r.IsWellFormed) ∧
      List.Forall₂ RuleSource.Gives (sources.filter RuleSource.isUsable) (Rule.ofSources sources) := by
  constructor
  · intro r hr
    obtain ⟨s, -, hs⟩ := List.mem_filterMap.mp hr
    exact RuleSource.isWellFormed_of_rule? hs
  · exact forall₂_filterMap RuleSource.isUsable_eq (fun _ _ => RuleSource.gives_of_rule?) sources

/-- Neither a comma alone nor a value with a semicolon comes to a rule. -/
example :
    (Rule.ofSources [⟨" , ", [("width", "1px")]⟩, ⟨"a", [("color", "red; x")]⟩,
      ⟨"p ,,[b=',']", [("width", "1px")]⟩]).map Rule.selectorText = ["p, [b=',']"] := by
  decide +kernel

end UiToolkit
