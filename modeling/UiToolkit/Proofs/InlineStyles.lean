import UiToolkit.Proofs.Characters
import UiToolkit.Proofs.Containment
import UiToolkit.Proofs.Layers

/-!
# Rules for style attributes

Each style attribute is pasted between the braces of a rule of its own, for a class with the number of the attribute, and the rules are put one behind the other. As long as every attribute fills its braces, the block is read as these rules: each has its class for its only selector, the numbers rise, and the declarations of a rule are those that its attribute makes in a document with no other one. An attribute with a brace too many makes rules of its own.
-/

namespace UiToolkit

open Text

namespace Css

open Node

variable {stop : Char} {run rest : Text}

/-! ### Selectors for classes -/

theorem ne_of_isNameChar {c : Char} (hc : isNameChar c = true) : c ≠ '\n' ∧ c ≠ '\r' ∧ c ≠ '\x0c' ∧ c ≠ '\x00' := by
  refine ⟨?_, ?_, ?_, ?_⟩ <;> · rintro rfl; cases hc

theorem name_of_isNameChar (hrun : ∀ c ∈ run, isNameChar c = true) (hrest : ∀ c ∈ rest.head?, isNameChar c = false ∧ c ≠ '\\') :
    name (run ++ rest) = (run, run.length) := by
  induction run with
  | nil =>
    cases rest with
    | nil => rw [List.append_nil, name]; rfl
    | cons c rest =>
      obtain ⟨hname, hbackslash⟩ := hrest c rfl
      rw [List.nil_append, name_cons, hname, beq_false_of_ne hbackslash]
      rfl
  | cons c run ih =>
    obtain ⟨hc, hrun⟩ := List.forall_mem_cons.mp hrun
    rw [List.cons_append, name_cons, if_pos hc, ih hrun]
    rfl

theorem next_point {c : Char} (hc : c.isDigit = false) (cs : Text) : next '.' (c :: cs) = (some (.literal "."), 0) := by
  have hident : startsIdent ('.' :: c :: cs) = false := rfl
  have hnumber : numberExtent ('.' :: c :: cs) = 0 := by simp [numberExtent, digitExtent, hc]
  have hliteral : literalExtent ('.' :: c :: cs) = 1 := by simp [literalExtent_eq]
  unfold next
  simp [isSpace, startsUnicodeRange_eq, hident, hnumber, hliteral, isOpener, isCloser]

theorem next_inline (hrun : ∀ c ∈ run, isNameChar c = true) (r : Text) :
    next 'i' (run ++ ' ' :: r) = (some (.ident ('i' :: run)), run.length) := by
  have hname : name ('i' :: (run ++ ' ' :: r)) = ('i' :: run, run.length + 1) :=
    @name_of_isNameChar ('i' :: run) (' ' :: r) (List.forall_mem_cons.mpr ⟨by decide, hrun⟩) (by simp [isNameChar, isNameStart])
  have hident : identLexeme ('i' :: (run ++ ' ' :: r)) = (.ident ('i' :: run), run.length + 1) := by
    rw [identLexeme_eq, hname]
    simp
  unfold next
  simp [isSpace, startsUnicodeRange_eq, hident, startsIdent, isNameStart]

theorem lexemesBefore?_of_next {c : Char} {cs : Text} {l : Option Lexeme} (h : next c (cs ++ (rest ++ [stop])) = (l, cs.length)) :
    lexemesBefore? stop (c :: (cs ++ rest)) = (lexemesBefore? stop rest).map (l.toList ++ ·) := by
  rw [lexemesBefore?, List.append_assoc, h, if_pos (by simp), List.drop_left]

/-- The nodes of a class and the blank behind it. -/
def classNodes (name : Text) : List Node := [.leaf (.literal "."), .leaf (.ident name), .leaf (.space [' '])]

theorem preludeBefore?_class (hrun : ∀ c ∈ run, isNameChar c = true) :
    preludeBefore? '\x7b' ('.' :: 'i' :: (run ++ [' '])) = some (classNodes ('i' :: run)) := by
  have hspace : lexemesBefore? '\x7b' [' '] = some [.space [' ']] := by decide +kernel
  have hident := @lexemesBefore?_of_next '\x7b' [' '] 'i' run _ (next_inline hrun ['\x7b'])
  have hpoint := @lexemesBefore?_of_next '\x7b' ('i' :: (run ++ [' '])) '.' [] _
    (next_point (c := 'i') (by decide) (run ++ [' '] ++ ['\x7b']))
  rw [hident, hspace] at hpoint
  rw [preludeBefore?]
  exact congrArg (fun lexemes => (lexemes.filter (closes [])).map ofLexemes) hpoint

theorem nameText_of_isNameChar (hrun : ∀ c ∈ run, isNameChar c = true) : nameText run = run := by
  have hplain : ∀ c ∈ run, escapeNameChar c = [c] := by
    intro c hc
    obtain ⟨hfeed, hreturn, hform, -⟩ := ne_of_isNameChar (hrun c hc)
    have hend : escapedLineEnd? c = none := by simp [escapedLineEnd?, hfeed, hreturn, hform]
    rw [escapeNameChar, hend]
    exact if_pos (hrun c hc)
  rw [nameText, List.flatMap_congr hplain, List.flatMap_singleton']

theorem print_classNodes (hrun : ∀ c ∈ run, isNameChar c = true) :
    print (classNodes ('i' :: run)) = '.' :: 'i' :: (run ++ [' ']) := by
  have hname : identText ('i' :: run) = 'i' :: nameText run := by
    simp [identText, escapeNameStart, escapedLineEnd?, isNameStart]
  have hpoint : (Shape.literal ".").separator .ident = [] := by decide
  have hspace : Shape.ident.separator (.space false) = [] := by decide
  have hprint : print (classNodes ('i' :: run)) = '.' :: (identText ('i' :: run) ++ [' ']) := by
    rw [print, classNodes, listText.eq_3, listText.eq_2, listText.eq_2, listText.eq_1, List.append_nil]
    exact congrArg₂ (fun before behind => '.' :: (before ++ identText ('i' :: run) ++ (behind ++ [' ']))) hpoint hspace
  rw [hprint, hname, nameText_of_isNameChar hrun]
  rfl

end Css

namespace Html

open Css

/-! ### The rule of one attribute -/

/-- The selector of the rule for a style attribute. -/
def inlineSelector (number : Nat) : Text := ".inline-style-" ++ Text.ofNat number

/-- What stands between the braces of the rule for a style attribute. -/
def inlineBody (style : Text) : Text := ' ' :: (style ++ [' '])

theorem inlineRule_append (number : Nat) (style r : Text) : inlineRule number style ++ r =
    (inlineSelector number ++ [' ']) ++ '\x7b' :: (inlineBody style ++ '\x7d' :: r) := by
  unfold inlineRule inlineSelector inlineBody
  simp

theorem forall_mem_ofNat (number : Nat) :
    ∀ c ∈ Text.ofNat number, Css.isNameChar c = true ∧ isBlank c = false ∧ c ∉ nestingChars := by
  intro c hc
  have hdigit := isDigit_of_mem_ofNat hc
  have hall := forall_ascii (p := fun d => !d.isDigit || (Css.isNameChar d && !isBlank d && !nestingChars.contains d))
    (by decide) (toNat_lt_of_isDigit hdigit)
  simpa [hdigit, and_assoc] using hall

/-- Behind its point and its first letter the selector goes on with characters for names; none of it is blank, and none opens or separates. -/
theorem exists_inlineSelector_eq (number : Nat) : ∃ run, inlineSelector number = '.' :: 'i' :: run ∧
    (∀ c ∈ run, Css.isNameChar c = true) ∧ ∀ c ∈ inlineSelector number, isBlank c = false ∧ c ∉ nestingChars := by
  refine ⟨"nline-style-" ++ Text.ofNat number, rfl, ?_, ?_⟩
  · exact List.forall_mem_append.mpr ⟨by decide, fun c hc => (forall_mem_ofNat number c hc).1⟩
  · exact List.forall_mem_append.mpr ⟨by decide, fun c hc => (forall_mem_ofNat number c hc).2⟩

/-- Whether nodes are the prelude of a rule with the given selector. -/
def isPreludeOf (selector : Text) (nodes : List Css.Node) : Bool := isRulePrelude nodes && trim (Css.Node.print nodes) == selector

theorem preludeBefore?_inlineSelector (number : Nat) :
    (preludeBefore? '\x7b' (preprocess (inlineSelector number ++ [' ']))).any (isPreludeOf (inlineSelector number)) = true := by
  obtain ⟨run, hselector, hrun, hplain⟩ := exists_inlineSelector_eq number
  have hself : preprocess (inlineSelector number ++ [' ']) = inlineSelector number ++ [' '] := by
    rw [hselector]
    have hsome : ∀ c ∈ run, c ≠ '\r' ∧ c ≠ '\x0c' ∧ c ≠ '\x00' := fun c hc => (ne_of_isNameChar (hrun c hc)).2
    exact preprocess_eq_self (List.forall_mem_append.mpr
      ⟨List.forall_mem_cons.mpr ⟨by decide, List.forall_mem_cons.mpr ⟨by decide, hsome⟩⟩, by decide⟩)
  have htrim : trim (inlineSelector number ++ [' ']) = inlineSelector number := by
    have hends := @trim_append [] [' '] (by decide) (by decide) (inlineSelector number)
    rw [List.nil_append, trim_eq_self_of_all fun c hc => (hplain c hc).1] at hends
    exact hends
  rw [hself, hselector, List.cons_append, List.cons_append, preludeBefore?_class hrun, Option.any_some, isPreludeOf,
    print_classNodes hrun, ← List.cons_append, ← List.cons_append, ← hselector, htrim, beq_self_eq_true]
  rfl

theorem selectors_inlineSelector (number : Nat) :
    RuleSource.selectors (inlineSelector number) = [Selector.ofText (inlineSelector number)] := by
  obtain ⟨run, hselector, -, hplain⟩ := exists_inlineSelector_eq number
  have hwhole : splitTopLevel ',' (inlineSelector number) = [inlineSelector number] :=
    splitTopLevel_eq_singleton_iff.mpr (isWhole_plain Nesting.isProper_top fun c hc => (hplain c hc).2)
  have htrim := trim_eq_self_of_all fun c hc => (hplain c hc).1
  rw [RuleSource.selectors, hwhole, List.map_singleton, htrim, List.filter_cons_of_pos (by rw [hselector]; rfl)]
  rfl

variable {style : Text}

/-- The rule of a style attribute that fills its braces is read apart from what stands behind it, and under any number with the same content. -/
theorem exists_items_inlineRule (h : fillsBraces (preprocess (inlineBody style)) = true) : ∃ content, ∀ number, ∃ nodes,
    trim (Css.Node.print nodes) = inlineSelector number ∧
      ∀ r, items (Css.Node.ofCss (inlineRule number style ++ r)) = .rule nodes content :: items (Css.Node.ofCss r) := by
  obtain ⟨content, hread⟩ := exists_content_braces h
  refine ⟨content, fun number => ?_⟩
  obtain ⟨nodes, hnodes, hread⟩ := hread _ _ (preludeBefore?_inlineSelector number)
  obtain ⟨hrule, hprint⟩ := Bool.and_eq_true_iff.mp hnodes
  refine ⟨nodes, beq_iff_eq.mp hprint, fun r => ?_⟩
  rw [Css.Node.ofCss, Lexeme.ofCss, inlineRule_append, preprocess_braces, hread, items_rule hrule]
  rfl

/-- Under any number the rule of the style attribute is one item, and what stands behind it is read as if it stood alone. -/
def StandsAlone (style : Text) : Prop :=
  ∀ number, ∃ item, ∀ r, items (Css.Node.ofCss (inlineRule number style ++ r)) = item :: items (Css.Node.ofCss r)

theorem fillsBraces_inlineBody_iff (style : Text) : fillsBraces (preprocess (inlineBody style)) = true ↔ StandsAlone style := by
  constructor
  · intro h number
    obtain ⟨content, hread⟩ := exists_items_inlineRule h
    obtain ⟨nodes, -, hitems⟩ := hread number
    exact ⟨.rule nodes content, hitems⟩
  · intro h
    obtain ⟨nodes, hnodes, hprelude⟩ := (Option.any_eq_true _ _).mp (preludeBefore?_inlineSelector 1)
    have hrule : (preludeBefore? '\x7b' (preprocess (inlineSelector 1 ++ [' ']))).any isRulePrelude = true :=
      (Option.any_eq_true _ _).mpr ⟨nodes, hnodes, (Bool.and_eq_true_iff.mp hprelude).1⟩
    obtain ⟨item, hitems⟩ := h 1
    refine (fillsBraces_iff hrule).mpr fun r => ?_
    rw [← inlineRule_append, hitems, List.length_cons]

/-- A style attribute that fills its braces gives its rule the same entries under any number, and nothing else to what stands behind. -/
theorem exists_sources_inlineRule (h : fillsBraces (preprocess (inlineBody style)) = true) : ∃ declarations : Entries Text,
    ∀ number r, RuleSource.ofCss (inlineRule number style ++ r) = ⟨inlineSelector number, declarations⟩ :: RuleSource.ofCss r := by
  obtain ⟨content, hread⟩ := exists_items_inlineRule h
  refine ⟨Entries.ofList ((properties content).map fun p => (RuleSource.propertyName p, RuleSource.valueText p)), fun number r => ?_⟩
  obtain ⟨nodes, hprint, hitems⟩ := hread number
  rw [RuleSource.ofCss, hitems, List.filterMap_cons, ← hprint]
  rfl

/-- The rule for the style attribute with the number, if it declares something. -/
def ruleFor? (number : Nat) (declared : List Declaration) : Option Rule :=
  if declared.isEmpty then none else some ⟨[Selector.ofText (inlineSelector number)], declared⟩

theorem exists_rules_inlineRule (h : fillsBraces (preprocess (inlineBody style)) = true) : ∃ declared, ∀ number r,
    Rule.ofCss (inlineRule number style ++ r) = (ruleFor? number declared).toList ++ Rule.ofCss r := by
  obtain ⟨declarations, hsources⟩ := exists_sources_inlineRule h
  refine ⟨RuleSource.declared ⟨[], declarations⟩, fun number r => ?_⟩
  have hrule : RuleSource.rule? ⟨inlineSelector number, declarations⟩ = ruleFor? number (RuleSource.declared ⟨[], declarations⟩) := by
    rw [RuleSource.rule?, selectors_inlineSelector]
    rfl
  rw [Rule.ofCss, hsources, Rule.ofSources, List.filterMap_cons, hrule]
  cases ruleFor? number (RuleSource.declared ⟨[], declarations⟩) with
  | none => rfl
  | some rule => rfl

/-- The declarations that a style attribute makes in a document with no other one. -/
def inlineDeclarations (style : Text) : List Declaration := (Rule.ofCss (inlineRule 1 style)).flatMap (·.declarations)

theorem ofCss_nil : Rule.ofCss [] = [] := by
  rw [Rule.ofCss, StyleBlock.ofCss_eq, show preprocess [] = [] from rfl, itemsOf_nil]
  rfl

theorem ofCss_inlineRule_append (h : fillsBraces (preprocess (inlineBody style)) = true) (number : Nat) (r : Text) :
    Rule.ofCss (inlineRule number style ++ r) = (ruleFor? number (inlineDeclarations style)).toList ++ Rule.ofCss r := by
  obtain ⟨declared, hrules⟩ := exists_rules_inlineRule h
  have halone := hrules 1 []
  rw [List.append_nil, ofCss_nil, List.append_nil] at halone
  have hown : inlineDeclarations style = declared := by
    rw [inlineDeclarations, halone]
    cases declared with
    | nil => rfl
    | cons d declared => exact List.append_nil _
  rw [hrules, hown]

/-! ### The rules of all attributes -/

/-- The style attributes of a document that are not blank, in document order. -/
def inlineStyles (document : List Node) : List Text := (Node.listElements document).filterMap inlineStyle?

theorem css_of_origin {document : List Node} {b : StyleBlock} (hb : b ∈ styleBlocks true document)
    (horigin : b.origin = .styleAttributes) : b.css = joinWith ['\n'] (inlineRules 1 (inlineStyles document)) := by
  rcases List.mem_append.mp hb with hb | hb
  · obtain ⟨e, -, hblock⟩ := List.mem_filterMap.mp hb
    have helement : b.origin = .styleElement := by
      rw [styleBlock?] at hblock
      split at hblock
      · cases hblock
      · extract_lets css at hblock
        split at hblock
        · cases hblock
        · cases hblock
          rfl
    rw [helement] at horigin
    cases horigin
  · rw [if_pos rfl, Option.mem_toList, inlineBlock?] at hb
    split at hb
    · cases hb
    · cases hb
      rfl

theorem ofCss_newline (r : Text) : Rule.ofCss ('\n' :: r) = Rule.ofCss r := by
  rw [Rule.ofCss, StyleBlock.ofCss_eq, preprocess_newline, itemsOf_space rfl]
  rfl

theorem ofCss_joinWith_newline (rules : List Text) : Rule.ofCss (joinWith ['\n'] rules) = Rule.ofCss (rules.flatMap ('\n' :: ·)) := by
  cases rules with
  | nil => rfl
  | cons rule rules => rw [joinWith_cons, List.flatMap_cons, List.cons_append, ofCss_newline]; rfl

theorem ofCss_inlineRules {styles : List Text} (h : ∀ style ∈ styles, fillsBraces (preprocess (inlineBody style)) = true)
    (number : Nat) : Rule.ofCss ((inlineRules number styles).flatMap ('\n' :: ·)) =
      (styles.zipIdx number).filterMap fun p => ruleFor? p.2 (inlineDeclarations p.1) := by
  induction styles generalizing number with
  | nil => exact ofCss_nil
  | cons style styles ih =>
    obtain ⟨hstyle, hstyles⟩ := List.forall_mem_cons.mp h
    rw [inlineRules, List.flatMap_cons, List.cons_append, ofCss_newline, ofCss_inlineRule_append hstyle, ih hstyles,
      List.zipIdx_cons, List.filterMap_cons]
    cases ruleFor? number (inlineDeclarations style) with
    | none => rfl
    | some rule => rfl

/-- The rules of the inline block are those for its attributes in their order, numbered from one, with what each attribute declares. -/
def ReadsApart (declare : Text → List Declaration) (document : List Node) : Prop :=
  ∀ b ∈ styleBlocks true document, b.origin = .styleAttributes →
    Rule.ofCss b.css = ((inlineStyles document).zipIdx 1).filterMap fun p => ruleFor? p.2 (declare p.1)

/-- A style attribute fills its braces just when its rule stands alone. Where all do, each of them has the rule of its own number. -/
theorem readsApart_of_fillsBraces (document : List Node) :
    (∀ style ∈ inlineStyles document, fillsBraces (preprocess (inlineBody style)) = true ↔ StandsAlone style) ∧
      ((∀ style ∈ inlineStyles document, fillsBraces (preprocess (inlineBody style)) = true) →
        ReadsApart inlineDeclarations document) := by
  refine ⟨fun style _ => fillsBraces_inlineBody_iff style, fun h b hb horigin => ?_⟩
  rw [css_of_origin hb horigin, ofCss_joinWith_newline, ofCss_inlineRules h]

/-- Braces in a string and in a comment, and an attribute that declares nothing. -/
def quotedBraces : List Node :=
  [.element "p" [("style", "color: red; -x: '\x7d .evil \x7b'")] [.element "b" [("style", "oops")] []],
    .element "p" [("style", " /* \x7d */ margin: (1px) ")] []]

theorem readsApart_of_fillsBraces_quotedBraces :
    (∀ style ∈ inlineStyles quotedBraces, fillsBraces (preprocess (inlineBody style)) = true ∧ StandsAlone style) ∧
      (∃ b ∈ styleBlocks true quotedBraces, b.origin = .styleAttributes) ∧ ∀ b ∈ styleBlocks true quotedBraces, b.origin = .styleAttributes →
        (Rule.ofCss b.css).map (fun r => (r.selectorText, r.declarations.map (·.property))) =
          [(".inline-style-1".toList, ["color".toList, "-x".toList]), (".inline-style-3".toList, ["margin".toList])] := by
  have hfills : ∀ style ∈ inlineStyles quotedBraces, fillsBraces (preprocess (inlineBody style)) = true := by decide +kernel
  obtain ⟨hiff, hapart⟩ := readsApart_of_fillsBraces quotedBraces
  refine ⟨fun style hstyle => ⟨hfills style hstyle, (hiff style hstyle).mp (hfills style hstyle)⟩, by decide,
    fun b hb horigin => ?_⟩
  rw [hapart hfills b hb horigin]
  decide +kernel

/-- An attribute that ends its rule and begins another one. -/
def ruleInAttribute : List Node := [.element "p" [("style", "color: red; \x7d .evil \x7b color: blue")] []]

/-- An attribute with a comment that takes in the rule of the next one. -/
def commentInAttribute : List Node :=
  [.element "p" [("style", "color: red; /*")] [], .element "p" [("style", "left: 0")] []]

/-- There are rules that no attribute has, for selectors of the author's own choice, and attributes without their rule. -/
theorem not_readsApart_ruleInAttribute :
    (document? "<p style=\"color: red; \x7d .evil \x7b color: blue\">x</p>").map (fun document =>
        (styleBlocks true document).map fun b => (Rule.ofCss b.css).map Rule.selectorText) =
      some [[".inline-style-1".toList, ".evil".toList]] ∧
      ((styleBlocks true commentInAttribute).map fun b => (Rule.ofCss b.css).map Rule.selectorText) = [[".inline-style-1".toList]] ∧
      ¬∀ (document : List Node), ∀ b ∈ styleBlocks true document, b.origin = .styleAttributes → ∀ r ∈ Rule.ofCss b.css,
        ∃ number, 1 ≤ number ∧ number ≤ (inlineStyles document).length ∧ r.selectors = [Selector.ofText (inlineSelector number)] := by
  refine ⟨by decide +kernel, by decide +kernel, fun h => ?_⟩
  have hrules : ∀ b ∈ styleBlocks true ruleInAttribute, b.origin = .styleAttributes ∧
      ∃ r ∈ Rule.ofCss b.css, r.selectors ≠ [Selector.ofText (inlineSelector 1)] := by decide +kernel
  have hattributes : (inlineStyles ruleInAttribute).length = 1 := by decide
  obtain ⟨b, hb⟩ : ∃ b, b ∈ styleBlocks true ruleInAttribute := List.exists_mem_of_ne_nil _ (by decide)
  obtain ⟨horigin, r, hr, hother⟩ := hrules b hb
  obtain ⟨number, hpos, hle, hselectors⟩ := h ruleInAttribute b hb horigin r hr
  rw [hattributes] at hle
  rw [Nat.le_antisymm hle hpos] at hselectors
  exact hother hselectors

end Html

end UiToolkit
