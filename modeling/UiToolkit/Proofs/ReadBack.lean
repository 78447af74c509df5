import UiToolkit.Proofs.Blocks
import UiToolkit.Proofs.Brackets
import UiToolkit.Proofs.Lexing
import UiToolkit.StyleSheet.Basic

/-!
# Reading blocks back

A part of a block is legible when the grammar reads it on its own as what it is: a header as a prelude, a name as an identifier, a value as a value. Blocks with legible parts are read back as the rules that they stand for, one after the other, since no part reaches into the next one.
-/

namespace UiToolkit

namespace Css

open Text Node

/-- The nodes of a text in front of a stop, if its lexemes end before the stop and close what they open. -/
def nodesBefore? (stop : Char) (s : Text) : Option (List Node) :=
  ((lexemesBefore? stop s).filter (settles [])).map ofLexemes

/-- The name that a text in front of a colon makes. -/
def nameBefore? (s : Text) : Option Text :=
  match lexemesBefore? ':' s with
  | some [.ident name] => some name
  | _ => none

def isAtKeyword : Node → Bool
  | .leaf (.atKeyword _) => true
  | _ => false

/-- Whether nodes begin a rule that is no at-rule, and hold no braces. -/
def isPrelude : List Node → Bool
  | [] => false
  | node :: nodes =>
    !(node.isSpace || node.isLiteral "<!--" || node.isLiteral "-->") && !isAtKeyword node &&
      (node :: nodes).all (!·.isCurly)

/-- Whether nodes are a whole value without a mark of importance. -/
def isValue (nodes : List Node) : Bool :=
  nodes.all (!·.isLiteral ";") && !bracesAfterContent .none false nodes && (beforeMark? .none nodes).isNone

/-- The header is read as a prelude that is written as the header. -/
def readsHeader (header : Text) : Bool :=
  (nodesBefore? '\x7b' (header ++ [' '])).any fun nodes => isPrelude nodes && trim (print nodes) == header

/-- The value is read as a value that is written as it is. -/
def readsValue (value : Text) : Bool :=
  (nodesBefore? ';' (' ' :: value)).any fun nodes => isValue nodes && trim (print nodes) == value

/-- The name is read as an identifier that goes by the name. -/
def readsName (name : Text) : Bool :=
  (nameBefore? name).any fun n => RuleSource.propertyName ⟨n, [], false⟩ == name

theorem trim_of_readsValue {value : Text} (h : readsValue value = true) : trim value = value := by
  obtain ⟨nodes, -, hvalue⟩ := Option.any_eq_true _ _ |>.mp h
  rw [Bool.and_eq_true, beq_iff_eq] at hvalue
  rw [← hvalue.2, trim_trim]

theorem preprocess_eq_self {s : Text} (h : ∀ c ∈ s, c ≠ '\r' ∧ c ≠ '\x0c' ∧ c ≠ '\x00') : preprocess s = s := by
  have hends : unifyLineEnds s = s := by
    induction s with
    | nil => rfl
    | cons c cs ih =>
      obtain ⟨hc, hcs⟩ := List.forall_mem_cons.mp h
      rw [unifyLineEnds, ih hcs, if_neg (by simpa using hc.1)]
      rintro cs rfl rfl
      exact hc.1 rfl
  rw [preprocess, hends]
  refine (List.map_congr_left fun c hc => ?_).trans (List.map_id s)
  rw [if_neg (by simpa using (h c hc).2.1), if_neg (by simpa using (h c hc).2.2)]
  rfl

/-! ### Declarations -/

/-- The names and values of the declarations between braces, as a rule takes them. -/
def sourcesOf (nodes : List Node) : List (Text × Text) :=
  (properties nodes).map fun p => (RuleSource.propertyName p, RuleSource.valueText p)

theorem properties_space (text : Text) (nodes : List Node) :
    properties (.leaf (.space text) :: nodes) = properties nodes := by
  rw [properties]
  · rfl
  · intro name hname
    cases hname

theorem takeWhile_append_cons {p : Node → Bool} {value : List Node} (hvalue : ∀ node ∈ value, p node = true) (stop : Node)
    (hstop : p stop = false) (nodes : List Node) :
    (value ++ stop :: nodes).takeWhile p = value ∧ (value ++ stop :: nodes).dropWhile p = stop :: nodes := by
  rw [List.takeWhile_append_of_pos hvalue, List.dropWhile_append_of_pos hvalue, List.takeWhile_cons, List.dropWhile_cons,
    hstop]
  simp

theorem properties_declaration {name : Text} {value : List Node} (hvalue : isValue value = true) (nodes : List Node) :
    properties (.leaf (.ident name) :: .leaf (.literal ":") :: (value ++ .leaf (.literal ";") :: nodes)) =
      ⟨name, value, false⟩ :: properties nodes := by
  simp only [isValue, Bool.and_eq_true, List.all_eq_true, Bool.not_eq_true', Option.isNone_iff_eq_none] at hvalue
  obtain ⟨⟨hends, hbraces⟩, hmark⟩ := hvalue
  have hplain : ∀ node ∈ Node.leaf (.literal ":") :: value, (!node.isLiteral ";") = true :=
    List.forall_mem_cons.mpr ⟨by decide, fun node hnode => by rw [hends node hnode]; rfl⟩
  obtain ⟨htake, hdrop⟩ := takeWhile_append_cons hplain (.leaf (.literal ";")) (by decide) nodes
  have hproperty : property? (.leaf (.ident name) :: .leaf (.literal ":") :: value) = some ⟨name, value, false⟩ := by
    rw [property?, List.dropWhile_cons, if_neg (by simp [Node.isSpace])]
    dsimp only
    rw [hbraces, hmark]
    rfl
  rw [properties, if_neg (by simp [Node.isSpace, Node.isLiteral]), ← List.cons_append, htake, hdrop, hproperty]
  · rfl
  · intro name hname
    cases hname

/-- What may be said of a text that is read to nodes wherever it stands. -/
theorem exists_of_nodesBefore? {stop : Char} (hstop : stop ∈ stops) {s : Text} {nodes : List Node}
    (h : nodesBefore? stop s = some nodes) :
    ∃ lexemes, (∀ r, Lexeme.scan (s ++ stop :: r) = lexemes ++ Lexeme.scan (stop :: r)) ∧ settles [] lexemes = true ∧
      ofLexemes lexemes = nodes := by
  obtain ⟨lexemes, hlexemes, rfl⟩ := Option.map_eq_some_iff.mp h
  obtain ⟨hlexemes, hsettles⟩ := Option.filter_eq_some_iff.mp hlexemes
  exact ⟨lexemes, scan_append hstop hlexemes, hsettles, rfl⟩

theorem not_isSpace_of_lexemesBefore? {stop : Char} {s : Text} {lexemes : List Lexeme} (h : lexemesBefore? stop s = some lexemes)
    (hspace : ∀ text, lexemes.head? ≠ some (.space text)) : ∀ c ∈ s.head?, isSpace c = false := by
  intro c hc
  refine Bool.eq_false_iff.mpr fun hblank => ?_
  obtain ⟨cs, rfl⟩ : ∃ cs, s = c :: cs := by
    cases s with
    | nil => cases hc
    | cons d cs => exact ⟨cs, by rw [Option.some.inj hc]⟩
  rw [lexemesBefore?] at h
  split at h
  · obtain ⟨rest, -, rfl⟩ := Option.map_eq_some_iff.mp h
    refine hspace ((c :: (cs ++ [stop])).takeWhile isSpace) ?_
    unfold next
    rw [if_pos hblank]
    rfl
  · cases h

theorem scan_of_readsName {name : Text} (h : readsName name = true) :
    ∃ n, RuleSource.propertyName ⟨n, [], false⟩ = name ∧ (∀ c ∈ name.head?, isSpace c = false) ∧ name ≠ [] ∧
      ∀ r, Lexeme.scan (name ++ ':' :: r) = .ident n :: .literal ":" :: Lexeme.scan r := by
  obtain ⟨n, hn, hname⟩ := Option.any_eq_true _ _ |>.mp h
  have hlexemes : lexemesBefore? ':' name = some [.ident n] := by
    unfold nameBefore? at hn
    split at hn
    · rename_i heq
      rw [heq, Option.some.inj hn]
    · cases hn
  refine ⟨n, beq_iff_eq.mp hname, not_isSpace_of_lexemesBefore? hlexemes (by simp), ?_, fun r => ?_⟩
  · rintro rfl
    rw [lexemesBefore?] at hlexemes
    cases hlexemes
  · rw [scan_append (by decide) hlexemes, scan_blockSymbol (by decide)]
    rfl

/-- The lines of a block are read as their declarations. -/
theorem exists_lexemes_lines {lines : List (Text × Text)}
    (hlines : ∀ line ∈ lines, readsName line.1 = true ∧ readsValue line.2 = true) :
    ∃ lexemes, (∀ r, Lexeme.scan ('\n' :: (lines.flatMap Outcome.line ++ '\x7d' :: r)) =
        lexemes ++ Lexeme.scan ('\x7d' :: r)) ∧
      settles [] lexemes = true ∧ sourcesOf (ofLexemes lexemes) = lines := by
  induction lines with
  | nil =>
    refine ⟨[.space ['\n']], fun r => ?_, rfl, ?_⟩
    · exact scan_spaces (s := '\x7d' :: r) (by decide) (by simp [isSpace])
    · rw [ofLexemes_cons rfl rfl, sourcesOf, properties_space, show ofLexemes [] = [] from rfl, properties]
      rfl
  | cons line lines ih =>
    obtain ⟨name, value⟩ := line
    obtain ⟨⟨hname, hvalue⟩, hrest⟩ := List.forall_mem_cons.mp hlines
    obtain ⟨rest, hscan, hsettles, hsources⟩ := ih hrest
    obtain ⟨n, hn, hhead, hne, hscanName⟩ := scan_of_readsName hname
    obtain ⟨nodes, hnodes, hvalue⟩ := Option.any_eq_true _ _ |>.mp hvalue
    rw [Bool.and_eq_true, beq_iff_eq] at hvalue
    obtain ⟨valueLexemes, hscanValue, hsettlesValue, rfl⟩ := exists_of_nodesBefore? (by decide) hnodes
    have hsettlesRest : settles [] (.literal ";" :: rest) = true := hsettles
    have hsettlesTail : settles [] (valueLexemes ++ .literal ";" :: rest) = true :=
      settles_append_settled hsettlesValue hsettlesRest
    refine ⟨.space "\n    " :: .ident n :: .literal ":" :: (valueLexemes ++ .literal ";" :: rest), fun r => ?_,
      hsettlesTail, ?_⟩
    · have htext : '\n' :: (((name, value) :: lines).flatMap Outcome.line ++ '\x7d' :: r) =
          '\n' :: "    ".toList ++ (name ++ ':' :: (' ' :: value ++ ';' :: '\n' :: (lines.flatMap Outcome.line ++ '\x7d' :: r))) := by
        simp [Outcome.line, Outcome.indent]
      have hspaces : ∀ c ∈ (name ++ ':' :: (' ' :: value ++ ';' :: '\n' :: (lines.flatMap Outcome.line ++ '\x7d' :: r))).head?,
          isSpace c = false := by
        obtain ⟨c, cs, rfl⟩ := List.exists_cons_of_ne_nil hne
        exact hhead
      rw [htext, scan_spaces (by decide) hspaces, hscanName, hscanValue, scan_blockSymbol (c := ';') (by decide), hscan]
      simp [isOpener, isCloser]
    · have hnodes : ofLexemes (.space "\n    ".toList :: .ident n :: .literal ":".toList :: (valueLexemes ++ .literal ";".toList :: rest)) =
          .leaf (.space "\n    ".toList) :: .leaf (.ident n) :: .leaf (.literal ":") :: (ofLexemes valueLexemes ++
            .leaf (.literal ";") :: ofLexemes rest) := by
        have := (ofLexemes_plain_append [.space "\n    ".toList, .ident n, .literal ":".toList] (by simp [isPlain]) hsettlesTail).2
        rw [ofLexemes_append hsettlesValue hsettlesRest, ofLexemes_cons rfl hsettles] at this
        exact this
      rw [hnodes, sourcesOf, properties_space, properties_declaration hvalue.1, List.map_cons, ← sourcesOf, hsources]
      congr 2
      exact hvalue.2

/-! ### Blocks -/

theorem items_space (text : Text) (nodes : List Node) : items (.leaf (.space text) :: nodes) = items nodes := by
  rw [items.eq_4 _ _ (fun name h => by cases h) (fun content h => by cases h), if_pos (by rfl)]

theorem items_prelude {prelude : List Node} (h : isPrelude prelude = true) (content nodes : List Node) :
    items (prelude ++ .block .curly content :: nodes) = .rule prelude content :: items nodes := by
  cases prelude with
  | nil => cases h
  | cons node prelude =>
    rw [isPrelude, Bool.and_eq_true, Bool.and_eq_true, Bool.not_eq_true', Bool.not_eq_true', List.all_eq_true] at h
    obtain ⟨⟨hplain, hkeyword⟩, hcurly⟩ := h
    obtain ⟨hnode, hcurly⟩ := List.forall_mem_cons.mp hcurly
    obtain ⟨htake, hdrop⟩ := takeWhile_append_cons hcurly (.block .curly content) rfl nodes
    rw [List.cons_append, items.eq_4, if_neg (by rw [hplain]; exact Bool.false_ne_true)]
    · dsimp only
      split
      · rename_i hrest
        rw [hdrop] at hrest
        obtain ⟨hcontent, rfl⟩ := List.cons.inj hrest
        cases hcontent
        rw [htake]
      · rename_i hnone
        exact absurd hdrop (hnone content nodes)
    · rintro name rfl
      cases hkeyword
    · rintro content rfl
      cases hnode

end Css

namespace Block

open Text Css Node

/-- What the text of a block is read as. -/
def source (b : Block) : RuleSource := ⟨joinWith ", " b.header, Entries.ofList b.lines⟩

/-- The selectors and declarations that the parts of a block stand for. -/
def rule (b : Block) : Rule :=
  ⟨b.header.map Selector.ofText, b.lines.map fun line => ⟨line.1, Fragment.ofText? line.2, false⟩⟩

/-- Every part of the block is read on its own as what it is. -/
structure IsLegible (b : Block) : Prop where
  characters : ∀ c ∈ b.text, c ≠ '\r' ∧ c ≠ '\x0c' ∧ c ≠ '\x00'
  header : readsHeader (joinWith ", " b.header) = true
  selectors : RuleSource.selectors (joinWith ", " b.header) = b.header.map Selector.ofText
  lines : ∀ line ∈ b.lines, readsName line.1 = true ∧ readsValue line.2 = true
  declarations : ∀ line ∈ b.lines, Declaration.ofSource? line.1 line.2 = some ⟨line.1, Fragment.ofText? line.2, false⟩

instance (b : Block) : Decidable b.IsLegible :=
  decidable_of_iff
    ((∀ c ∈ b.text, c ≠ '\r' ∧ c ≠ '\x0c' ∧ c ≠ '\x00') ∧ readsHeader (joinWith ", " b.header) = true ∧
      RuleSource.selectors (joinWith ", " b.header) = b.header.map Selector.ofText ∧
      (∀ line ∈ b.lines, readsName line.1 = true ∧ readsValue line.2 = true) ∧
      ∀ line ∈ b.lines, Declaration.ofSource? line.1 line.2 = some ⟨line.1, Fragment.ofText? line.2, false⟩)
    ⟨fun ⟨hcharacters, hheader, hselectors, hlines, hdeclarations⟩ =>
      ⟨hcharacters, hheader, hselectors, hlines, hdeclarations⟩,
      fun ⟨hcharacters, hheader, hselectors, hlines, hdeclarations⟩ =>
      ⟨hcharacters, hheader, hselectors, hlines, hdeclarations⟩⟩

variable {b : Block}

theorem text_append (b : Block) (r : Text) :
    b.text ++ r = joinWith ", " b.header ++ [' '] ++ '\x7b' :: '\n' :: (b.lines.flatMap Outcome.line ++ '\x7d' :: '\n' :: r) := by
  simp [text, Outcome.block]

theorem IsLegible.not_isSpace (h : b.IsLegible) (r : Text) : ∀ c ∈ (b.text ++ r).head?, isSpace c = false := by
  obtain ⟨nodes, hnodes, hprelude⟩ := Option.any_eq_true _ _ |>.mp h.header
  rw [Bool.and_eq_true] at hprelude
  obtain ⟨lexemes, hlexemes, rfl⟩ := Option.map_eq_some_iff.mp hnodes
  obtain ⟨hlexemes, hsettles⟩ := Option.filter_eq_some_iff.mp hlexemes
  have hhead := not_isSpace_of_lexemesBefore? hlexemes fun text htext => by
    obtain ⟨rest, rfl⟩ : ∃ rest, lexemes = .space text :: rest := by
      cases lexemes with
      | nil => cases htext
      | cons l rest => exact ⟨rest, by rw [Option.some.inj htext]⟩
    rw [ofLexemes_cons rfl ((settles_of_plain rfl [] rest).symm.trans hsettles)] at hprelude
    exact Bool.false_ne_true hprelude.1
  rw [text_append]
  cases hjoined : joinWith ", " b.header ++ [' '] with
  | nil => simp at hjoined
  | cons c cs =>
    rw [hjoined] at hhead
    exact hhead

/-- A legible block is read as a rule, whatever stands after it. -/
theorem IsLegible.exists_lexemes (h : b.IsLegible) :
    ∃ lexemes, (∀ r : Text, (∀ c ∈ r.head?, isSpace c = false) → Lexeme.scan (b.text ++ r) = lexemes ++ Lexeme.scan r) ∧
      settles [] lexemes = true ∧
      ∃ prelude content, (∀ nodes, items (ofLexemes lexemes ++ nodes) = .rule prelude content :: items nodes) ∧
        RuleSource.ofNodes prelude content = b.source := by
  obtain ⟨prelude, hprelude, hheader⟩ := Option.any_eq_true _ _ |>.mp h.header
  rw [Bool.and_eq_true, beq_iff_eq] at hheader
  obtain ⟨header, hscanHeader, hsettlesHeader, rfl⟩ := exists_of_nodesBefore? (by decide) hprelude
  obtain ⟨content, hscanContent, hsettlesContent, hcontent⟩ := exists_lexemes_lines h.lines
  have hsettlesEnd : settles [] [.space ['\n']] = true := rfl
  have hsettlesBlock : settles [] ((.opener '\x7b' :: content ++ [.closer '\x7d']) ++ [.space ['\n']]) = true := by
    rw [List.append_assoc]
    exact (settles_block hsettlesContent _).trans rfl
  refine ⟨header ++ ((.opener '\x7b' :: content ++ [.closer '\x7d']) ++ [.space ['\n']]), fun r hr => ?_,
    settles_append_settled hsettlesHeader hsettlesBlock, ofLexemes header, ofLexemes content, fun nodes => ?_, ?_⟩
  · have hend : Lexeme.scan ('\n' :: r) = .space ['\n'] :: Lexeme.scan r :=
      @scan_spaces r '\n' [] (by decide) hr
    rw [text_append, hscanHeader, scan_blockSymbol (by decide), hscanContent, scan_blockSymbol (by decide), hend]
    simp [isOpener, isCloser]
  · rw [ofLexemes_append hsettlesHeader hsettlesBlock,
      ofLexemes_append ((settles_block hsettlesContent []).trans rfl) hsettlesEnd, ofLexemes_block hsettlesContent,
      List.append_assoc, List.append_assoc, List.singleton_append, items_prelude hheader.1]
    exact congrArg _ (items_space _ nodes)
  · rw [RuleSource.ofNodes, hheader.2, source, ← hcontent]
    rfl

theorem exists_lexemes_blocks {bs : List Block} (h : ∀ b ∈ bs, b.IsLegible) :
    ∃ lexemes, Lexeme.scan (bs.flatMap Block.text) = lexemes ∧ settles [] lexemes = true ∧
      (items (ofLexemes lexemes)).filterMap RuleSource.ofItem? = bs.map Block.source := by
  induction bs with
  | nil =>
    refine ⟨[], scan_nil, rfl, ?_⟩
    rw [show ofLexemes [] = [] from rfl, items]
    rfl
  | cons b bs ih =>
    obtain ⟨hb, hbs⟩ := List.forall_mem_cons.mp h
    obtain ⟨rest, hscanRest, hsettlesRest, hrest⟩ := ih hbs
    obtain ⟨lexemes, hscan, hsettles, prelude, content, hitems, hsource⟩ := hb.exists_lexemes
    have hhead : ∀ c ∈ (bs.flatMap Block.text).head?, isSpace c = false := by
      cases bs with
      | nil => simp
      | cons next bs => exact (hbs next List.mem_cons_self).not_isSpace _
    refine ⟨lexemes ++ rest, ?_, settles_append_settled hsettles hsettlesRest, ?_⟩
    · rw [List.flatMap_cons, hscan _ hhead, hscanRest]
    · rw [ofLexemes_append hsettles hsettlesRest, hitems, List.filterMap_cons_some (b := b.source), hrest]
      · rfl
      · exact congrArg some hsource

theorem IsLegible.rule?_source (h : b.IsLegible) (hheader : b.header ≠ []) (hlines : b.lines ≠ [])
    (hnodup : b.lines.names.Nodup) : b.source.rule? = some b.rule := by
  have hdeclared : b.source.declared = b.rule.declarations := by
    rw [RuleSource.declared, source, Entries.ofList_of_nodup hnodup]
    exact (List.filterMap_congr h.declarations).trans (congrFun List.filterMap_eq_map' b.lines)
  have hrule : (⟨RuleSource.selectors b.source.selector, b.source.declared⟩ : Rule) = b.rule := by
    rw [hdeclared, source, h.selectors, rule]
  rw [RuleSource.rule?, hrule, if_neg (by simp [rule, hheader, hlines])]

/-- Legible blocks are read back as what they stand for. -/
theorem ofCss_text {bs : List Block} (hlegible : ∀ b ∈ bs, b.IsLegible)
    (hkept : ∀ b ∈ bs, b.header ≠ [] ∧ b.lines ≠ [] ∧ b.lines.names.Nodup) :
    Rule.ofCss (bs.flatMap Block.text) = bs.map Block.rule := by
  obtain ⟨lexemes, rfl, -, hitems⟩ := exists_lexemes_blocks hlegible
  have hplain : preprocess (bs.flatMap Block.text) = bs.flatMap Block.text := by
    refine preprocess_eq_self fun c hc => ?_
    obtain ⟨b, hb, hc⟩ := List.mem_flatMap.mp hc
    exact (hlegible b hb).characters c hc
  rw [Rule.ofCss, RuleSource.ofCss, Node.ofCss, Lexeme.ofCss, hplain, hitems, Rule.ofSources, List.filterMap_map,
    ← List.filterMap_eq_map]
  refine List.filterMap_congr fun b hb => ?_
  obtain ⟨hheader, hlines, hnodup⟩ := hkept b hb
  exact (hlegible b hb).rule?_source hheader hlines hnodup

end Block

end UiToolkit
