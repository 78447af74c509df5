import UiToolkit.Proofs.Denylist

/-!
# Segments and their neighbours

What is written for a segment of a selector is told by its neighbours: the two segments in front of it and the one behind it. A tag gives way to a name where it begins a compound, and to the root where it is all of a compound; an attribute is left out when the tag in front of it has asked for its type. So the compounds of a selector need not be formed to know what is written for it.
-/

namespace UiToolkit

namespace Segment

open Text

/-- A compound begins behind nothing or a separator, and ends in front of nothing or a separator. -/
def isBorder (neighbour : Option Segment) : Bool := neighbour.all isSeparator

/-- The element for an `input` that begins a compound, when the next segment asks for a type that is known. -/
def typedAt? (before : Option Segment) (g : Segment) (after : Option Segment) : Option Control :=
  if g.kind = .typeName ∧ isBorder before then after.bind (typedInput? g.text) else none

/-- The text for a segment, given the two segments in front of it and the one behind it. -/
def written (earlier before : Option Segment) (g : Segment) (after : Option Segment) : Text :=
  match g.kind with
  | .whitespace => [' ']
  | .typeName =>
    if !isBorder before then g.text
    else if isRootTag g.text && isBorder after then ":root"
    else ((typedAt? before g after).map Control.name).getD (elementName g.text)
  | .attribute => if (before.bind fun tag => typedAt? earlier tag (some g)).isSome then [] else g.text
  | _ => g.text

/-- The texts for the segments of a list, one after the other, given the two segments in front of the list. -/
def writtenFrom (earlier before : Option Segment) : List Segment → Text
  | [] => []
  | g :: after => written earlier before g after.head? ++ writtenFrom before (some g) after

variable {earlier before after : Option Segment} {g : Segment} {tag : Text}

@[simp] theorem isBorder_none : isBorder none = true := rfl

@[simp] theorem isBorder_some (g : Segment) : isBorder (some g) = g.isSeparator := rfl

/-! ### Typed inputs -/

theorem typedAt?_of_kind (hg : g.kind ≠ .typeName) (before after : Option Segment) : typedAt? before g after = none :=
  if_neg fun h => hg h.1

theorem typedAt?_of_not_border (hbefore : isBorder before = false) : typedAt? before g after = none :=
  if_neg fun h => Bool.false_ne_true (hbefore.symm.trans h.2)

theorem typedAt?_of_border (hbefore : isBorder before = true) :
    typedAt? before ⟨.typeName, tag⟩ after = after.bind (typedInput? tag) :=
  if_pos ⟨rfl, hbefore⟩

theorem kind_of_typedInput? {control : Control} (h : typedInput? tag g = some control) : g.kind = .attribute := by
  rw [typedInput?] at h
  split at h
  · obtain ⟨type, htype, -⟩ := Option.bind_eq_some_iff.mp h
    by_contra hkind
    rw [askedType?, if_pos hkind] at htype
    cases htype
  · cases h

theorem typedInput?_separator (hg : g.isSeparator = true) : typedInput? tag g = none := by
  cases htyped : typedInput? tag g with
  | none => rfl
  | some control =>
    rw [isSeparator, kind_of_typedInput? htyped] at hg
    cases hg

/-! ### One segment -/

theorem written_separator (hg : g.isSeparator = true) : written earlier before g after = rewriteCompound [g] := by
  obtain ⟨kind, text⟩ := g
  cases kind with
  | whitespace => rfl
  | combinator => exact (List.append_nil text).symm
  | _ => cases hg

theorem written_self (hg : g.isSeparator = false) (hborder : g.kind = .typeName → isBorder before = false)
    (htyped : (before.bind fun tag => typedAt? earlier tag (some g)) = none) :
    written earlier before g after = g.text := by
  obtain ⟨kind, text⟩ := g
  rw [written]
  by_cases hasks : kind = .attribute
  · subst hasks
    rw [htyped]
    rfl
  · cases kind with
    | whitespace => cases hg
    | typeName =>
      rw [hborder rfl]
      rfl
    | _ => first | rfl | exact absurd rfl hasks

/-- A tag at the border gives way to the root, to the element for its type, or to its element. -/
theorem written_typeName (hbefore : isBorder before = true) :
    written earlier before ⟨.typeName, tag⟩ after =
      if isRootTag tag && isBorder after then ":root".toList
      else ((after.bind (typedInput? tag)).map Control.name).getD (elementName tag) := by
  rw [written, hbefore, typedAt?_of_border hbefore, Bool.not_true, if_neg Bool.false_ne_true]

/-! ### One compound -/

theorem rewriteCompound_of_kind (hg : g.isSeparator = false) (hkind : g.kind ≠ .typeName) (C : List Segment) :
    rewriteCompound (g :: C) = textOf (g :: C) := by
  obtain ⟨kind, text⟩ := g
  cases kind with
  | whitespace => cases hg
  | typeName => exact absurd rfl hkind
  | _ => cases C <;> rfl

/-- Behind the first segment of a compound all are written as they stand, if the next one is not left out. -/
theorem exists_writtenFrom_rest {C : List Segment} (hg : g.isSeparator = false) (hC : ∀ k ∈ C, k.isSeparator = false)
    (htyped : typedAt? before g C.head? = none) (A : List Segment) :
    ∃ earlier' before', writtenFrom before (some g) (C ++ A) = textOf C ++ writtenFrom earlier' before' A := by
  induction C generalizing before g with
  | nil => exact ⟨before, some g, rfl⟩
  | cons k C ih =>
    obtain ⟨hk, hC⟩ := List.forall_mem_cons.mp hC
    obtain ⟨earlier', before', hrest⟩ := ih hk hC (typedAt?_of_not_border ((isBorder_some g).trans hg))
    refine ⟨earlier', before', ?_⟩
    rw [List.cons_append, writtenFrom, written_self hk (fun _ => (isBorder_some g).trans hg) htyped, hrest, textOf_cons, List.append_assoc]

variable {A C : List Segment}

theorem exists_writtenFrom_plain (hbefore : isBorder before = true) (hg : g.isSeparator = false) (hkind : g.kind ≠ .typeName)
    (hC : ∀ k ∈ C, k.isSeparator = false) (A : List Segment) :
    ∃ earlier' before', writtenFrom earlier before (g :: (C ++ A)) =
      rewriteCompound (g :: C) ++ writtenFrom earlier' before' A := by
  obtain ⟨earlier', before', hrest⟩ := exists_writtenFrom_rest hg hC (typedAt?_of_kind hkind before C.head?) A
  have hnone : (before.bind fun tag => typedAt? earlier tag (some g)) = none := by
    cases before with
    | none => rfl
    | some k =>
      apply typedAt?_of_kind
      intro hk
      rw [isBorder_some, isSeparator, hk] at hbefore
      cases hbefore
  refine ⟨earlier', before', ?_⟩
  rw [writtenFrom, written_self hg (fun h => absurd h hkind) hnone, hrest, rewriteCompound_of_kind hg hkind, textOf_cons,
    List.append_assoc]

theorem exists_writtenFrom_tag (hbefore : isBorder before = true) (hC : ∀ k ∈ C, k.isSeparator = false)
    (hA : ∀ k ∈ A.head?, k.isSeparator = true) :
    ∃ earlier' before', writtenFrom earlier before (⟨.typeName, tag⟩ :: (C ++ A)) =
      rewriteCompound (⟨.typeName, tag⟩ :: C) ++ writtenFrom earlier' before' A := by
  cases C with
  | nil =>
    refine ⟨before, some ⟨.typeName, tag⟩, ?_⟩
    have hafter : isBorder A.head? = true := by
      cases A with
      | nil => rfl
      | cons k A => exact hA k rfl
    have htyped : A.head?.bind (typedInput? tag) = none := by
      cases A with
      | nil => rfl
      | cons k A => exact typedInput?_separator (hA k rfl)
    rw [List.nil_append, writtenFrom, written_typeName hbefore, hafter, htyped, Bool.and_true]
    rfl
  | cons next C =>
    obtain ⟨hnext, hC⟩ := List.forall_mem_cons.mp hC
    have hfirst : written earlier before ⟨.typeName, tag⟩ (some next) =
        ((typedInput? tag next).map Control.name).getD (elementName tag) := by
      rw [written_typeName hbefore, isBorder_some, hnext, Bool.and_false, if_neg Bool.false_ne_true, Option.bind_some]
    have hasked : typedAt? before ⟨.typeName, tag⟩ (some next) = typedInput? tag next := typedAt?_of_border hbefore
    cases htyped : typedInput? tag next with
    | none =>
      rw [htyped] at hfirst hasked
      obtain ⟨earlier', before', hrest⟩ :=
        exists_writtenFrom_rest (g := ⟨.typeName, tag⟩) (C := next :: C) rfl
          (List.forall_mem_cons.mpr ⟨hnext, hC⟩) hasked A
      refine ⟨earlier', before', ?_⟩
      rw [writtenFrom, hrest, rewriteCompound, htyped, List.append_assoc]
      exact congrArg (· ++ _) hfirst
    | some control =>
      rw [htyped] at hfirst hasked
      have hskipped : typedAt? (some ⟨.typeName, tag⟩) next C.head? = none := typedAt?_of_not_border rfl
      obtain ⟨earlier', before', hrest⟩ := exists_writtenFrom_rest hnext hC hskipped A
      have hleft : written before (some ⟨.typeName, tag⟩) next (C ++ A).head? = [] := by
        rw [written, kind_of_typedInput? htyped, Option.bind_some, hasked]
        rfl
      refine ⟨earlier', before', ?_⟩
      rw [List.cons_append, writtenFrom, writtenFrom, hleft, hrest, rewriteCompound, htyped, List.append_assoc]
      exact congrArg (· ++ _) hfirst

theorem exists_writtenFrom_compound (earlier : Option Segment) (hbefore : isBorder before = true) (hne : C ≠ [])
    (hC : ∀ k ∈ C, k.isSeparator = false) (hA : ∀ k ∈ A.head?, k.isSeparator = true) :
    ∃ earlier' before', writtenFrom earlier before (C ++ A) = rewriteCompound C ++ writtenFrom earlier' before' A := by
  obtain ⟨⟨kind, text⟩, C, rfl⟩ := List.exists_cons_of_ne_nil hne
  obtain ⟨hg, hrest⟩ := List.forall_mem_cons.mp hC
  by_cases hkind : kind = .typeName
  · subst hkind
    exact exists_writtenFrom_tag hbefore hrest hA
  · exact exists_writtenFrom_plain hbefore hg hkind hrest A

/-! ### All compounds -/

/-- Segment by segment the same is written as compound by compound. -/
theorem writtenFrom_eq_rewriting (h : isBorder before = true ∨ ∀ g ∈ A.head?, g.isSeparator = true) :
    writtenFrom earlier before A = rewriting A := by
  induction A using compound_induction generalizing earlier before with
  | nil => rfl
  | separator g A hg ih =>
    rw [writtenFrom, written_separator hg, ih (.inl (isBorder_some g ▸ hg)), rewriting_cons hg]
  | compound C A hne hC hA ih =>
    have hbefore : isBorder before = true := by
      apply h.resolve_right
      intro hseparator
      obtain ⟨g, C, rfl⟩ := List.exists_cons_of_ne_nil hne
      exact Bool.false_ne_true ((hC g List.mem_cons_self).symm.trans (hseparator g rfl))
    obtain ⟨earlier', before', hwritten⟩ := exists_writtenFrom_compound earlier hbefore hne hC hA
    rw [hwritten, ih (.inr hA), rewriting_append hne hC hA]

end Segment

namespace Selector

open Text Segment

/-- An accepted selector without blanks around it is written segment by segment, each with its neighbours in view. -/
theorem rewrite_eq_writtenFrom {policy : Policy} {raw text : Text} (htrim : trim raw = raw)
    (h : (ofText raw).rewrite policy = .ok text) : text = writtenFrom none none (scan raw) := by
  rw [rewrite] at h
  split at h
  · cases h
  · rw [← Except.ok.inj h, rewritten_ofText htrim, writtenFrom_eq_rewriting (.inl isBorder_none)]

/-- The first tag is all of a compound and the last one is not, and the first of two attributes is asked for. -/
theorem rewrite_eq_writtenFrom_inputs :
    trim "BODY > input[type='checkbox'][type=x]  *html html.x" = "BODY > input[type='checkbox'][type=x]  *html html.x".toList ∧
      (ofText "BODY > input[type='checkbox'][type=x]  *html html.x").rewrite (.ofTables [] ["+"]) =
        .ok ":root > Toggle[type=x] *html html.x" ∧
      ":root > Toggle[type=x] *html html.x".toList =
        writtenFrom none none (scan "BODY > input[type='checkbox'][type=x]  *html html.x") := by
  have htrim : trim "BODY > input[type='checkbox'][type=x]  *html html.x" =
      "BODY > input[type='checkbox'][type=x]  *html html.x".toList := by decide
  have hrewrite : (ofText "BODY > input[type='checkbox'][type=x]  *html html.x").rewrite (.ofTables [] ["+"]) =
      .ok ":root > Toggle[type=x] *html html.x" := by decide +kernel
  exact ⟨htrim, hrewrite, rewrite_eq_writtenFrom htrim hrewrite⟩

end Selector

end UiToolkit
