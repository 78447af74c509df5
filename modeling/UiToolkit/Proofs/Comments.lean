import Mathlib.Algebra.GroupWithZero.Nat
import UiToolkit.Proofs.Brackets
import UiToolkit.Proofs.Marks
import UiToolkit.Proofs.Printing
import UiToolkit.Proofs.Splitting
import UiToolkit.StyleSheet.Basic

/-!
# Comments in rules

The lexemes of a rule are lexemes that were read, none of them a comment, and from the text of its nodes to those of its selectors and declarations nothing is lost but blanks, commas and marks of importance. So the openings of comments are handed on one by one. A rule shows a comment exactly where neighbours join in what was written for it, be there a comment in the source or not.
-/

namespace UiToolkit

open Text

namespace Css

/-! ### Lexemes of nodes that are read -/

namespace Node

theorem mem_listLexemes {l : Lexeme} {nodes : List Node} : l ∈ listLexemes nodes ↔ ∃ node ∈ nodes, l ∈ lexemes node := by
  induction nodes with
  | nil => simp [listLexemes]
  | cons node nodes ih => rw [listLexemes, List.mem_append, ih, List.exists_mem_cons_iff]

theorem listLexemes_subset {nodes all : List Node} (h : nodes ⊆ all) : listLexemes nodes ⊆ listLexemes all := by
  intro l hl
  obtain ⟨node, hnode, hmem⟩ := mem_listLexemes.mp hl
  exact mem_listLexemes.mpr ⟨node, h hnode, hmem⟩

theorem listLexemes_reverse_subset (nodes : List Node) : listLexemes nodes.reverse ⊆ listLexemes nodes :=
  listLexemes_subset fun _ => List.mem_reverse.mp

theorem lexemes_node (o : Opening) (content : List Node) : lexemes (o.node content) = listLexemes content := by
  cases o <;> rfl

/-- The lexemes that have come into the open lists. -/
def gathered (frames : Frames) (nodes : List Node) : List Lexeme :=
  listLexemes nodes ++ frames.flatMap fun frame => listLexemes frame.2

theorem gathered_closed (o : Opening) (outer nodes : List Node) (frames : Frames) :
    gathered frames (o.node nodes.reverse :: outer) ⊆ gathered ((o, outer) :: frames) nodes := by
  intro l hl
  rw [gathered, listLexemes, lexemes_node, List.append_assoc, List.mem_append] at hl
  rw [gathered, List.flatMap_cons, List.mem_append]
  exact hl.imp_left fun hmem => listLexemes_reverse_subset nodes hmem

theorem listLexemes_close_subset (frames : Frames) (nodes : List Node) :
    listLexemes (close frames nodes) ⊆ gathered frames nodes := by
  induction frames generalizing nodes with
  | nil =>
    rw [close, gathered, List.flatMap_nil, List.append_nil]
    exact listLexemes_reverse_subset nodes
  | cons frame frames ih =>
    obtain ⟨o, outer⟩ := frame
    exact List.Subset.trans (ih _) (gathered_closed o outer nodes frames)

/-- Reading on, nothing comes into the lists but what is read. -/
theorem listLexemes_nest_subset (frames : Frames) (nodes : List Node) (ls : List Lexeme) :
    listLexemes (nest frames nodes ls) ⊆ gathered frames nodes ++ ls := by
  induction ls generalizing frames nodes with
  | nil =>
    rw [List.append_nil]
    exact listLexemes_close_subset frames nodes
  | cons l ls ih =>
    have hleaf : listLexemes (nest frames (.leaf l :: nodes) ls) ⊆ gathered frames nodes ++ l :: ls := by
      intro m hm
      have hmem := ih _ _ hm
      rw [gathered, listLexemes, lexemes, List.append_assoc, List.append_assoc, List.singleton_append, List.mem_cons] at hmem
      rw [List.mem_append, List.mem_cons]
      rcases hmem with rfl | hmem
      · exact .inr (.inl rfl)
      · rw [← List.append_assoc, ← gathered, List.mem_append] at hmem
        exact hmem.imp_right .inr
    cases role l with
    | @opener _ o hopener =>
      rw [nest_opener hopener]
      intro m hm
      have hmem : m ∈ gathered frames nodes ++ ls := ih ((o, nodes) :: frames) [] hm
      rw [List.mem_append] at hmem ⊢
      exact hmem.imp_right (List.mem_cons_of_mem l)
    | closer c =>
      cases frames with
      | nil =>
        rw [nest_closer_nil]
        exact hleaf
      | cons frame frames =>
        obtain ⟨o, outer⟩ := frame
        rw [nest_closer]
        split
        · intro m hm
          have hmem := ih _ _ hm
          rw [List.mem_append] at hmem ⊢
          exact hmem.imp (fun hgathered => gathered_closed o outer nodes frames hgathered) (List.mem_cons_of_mem _)
        · exact hleaf
    | plain hplain =>
      rw [nest_plain hplain]
      exact hleaf

theorem isProper_of_mem_ofCss {css : Text} {l : Lexeme} (h : l ∈ listLexemes (Node.ofCss css)) : l.IsProper := by
  have hmem := listLexemes_nest_subset [] [] _ h
  exact isProper_of_mem_scan hmem

end Node

/-! ### Nodes of rules and values -/

/-- Behind the end of a rule or a declaration there are only nodes that were there before. -/
theorem drop_dropWhile_subset (p : Node → Bool) (node : Node) (nodes : List Node) :
    (nodes.dropWhile p).drop 1 ⊆ node :: nodes := by
  intro other hother
  exact List.mem_cons_of_mem node ((List.dropWhile_sublist p).subset (List.mem_of_mem_drop hother))

theorem subset_of_rule_mem_items {prelude content nodes : List Node} (h : .rule prelude content ∈ items nodes) :
    prelude ⊆ nodes ∧ .block .curly content ∈ nodes := by
  have hgrow : ∀ {rest all : List Node}, rest ⊆ all → prelude ⊆ rest ∧ .block .curly content ∈ rest →
      prelude ⊆ all ∧ .block .curly content ∈ all :=
    fun hrest hmem => ⟨List.Subset.trans hmem.1 hrest, hrest hmem.2⟩
  fun_induction items nodes with
  | case1 => cases h
  | case2 node nodes _ ih => exact hgrow (List.subset_cons_self node nodes) (ih h)
  | case3 nodes name _ ih =>
    rcases List.mem_cons.mp h with heq | hmem
    · cases heq
    · exact hgrow (drop_dropWhile_subset _ _ nodes) (ih hmem)
  | case4 nodes content _ ih =>
    rcases List.mem_cons.mp h with heq | hmem
    · cases heq
      exact ⟨List.nil_subset _, List.mem_cons_self⟩
    · exact hgrow (List.subset_cons_self _ nodes) (ih hmem)
  | case5 nodes first _ _ _ content rest hrest _ _ ih =>
    have hbody : .block .curly content :: rest ⊆ first :: nodes := by
      rw [← hrest]
      exact List.Subset.trans (List.dropWhile_sublist _).subset (List.subset_cons_self first nodes)
    rcases List.mem_cons.mp h with heq | hmem
    · cases heq
      exact ⟨List.cons_subset_cons first (List.takeWhile_sublist _).subset, hbody List.mem_cons_self⟩
    · exact hgrow (List.Subset.trans (List.subset_cons_self _ rest) hbody) (ih hmem)
  | case6 =>
    rw [List.mem_singleton] at h
    cases h

theorem prefix_of_beforeMark? {mark : Mark} {nodes before : List Node} (h : beforeMark? mark nodes = some before) :
    before <+: nodes := by
  induction nodes generalizing mark before with
  | nil => cases h
  | cons node nodes ih =>
    unfold beforeMark? at h
    split at h
    · rename_i front hfront
      cases h
      exact List.prefix_cons_inj node |>.mpr (ih hfront)
    · split at h
      · cases h
        exact List.nil_prefix
      · cases h

theorem value_subset_of_property? {nodes : List Node} {p : Property} (h : property? nodes = some p) : p.value ⊆ nodes := by
  unfold property? at h
  split at h
  · rename_i name nodes
    split at h
    · rename_i colon value hvalue
      have hsubset : value ⊆ .leaf (.ident name) :: nodes := by
        have hdrop := drop_dropWhile_subset Node.isSpace (.leaf (.ident name)) nodes
        rw [hvalue] at hdrop
        exact hdrop
      split at h
      · cases h
      · split at h
        · rename_i before hbefore
          cases h
          exact List.Subset.trans (prefix_of_beforeMark? hbefore).subset hsubset
        · cases h
          exact hsubset
    · cases h
  · cases h

theorem value_subset_of_mem_properties {nodes : List Node} {p : Property} (h : p ∈ properties nodes) : p.value ⊆ nodes := by
  fun_induction properties nodes with
  | case1 => cases h
  | case2 node nodes _ ih => exact List.Subset.trans (ih h) (List.subset_cons_self node nodes)
  | case3 nodes name _ ih => exact List.Subset.trans (ih h) (drop_dropWhile_subset _ _ nodes)
  | case4 nodes first _ _ ih =>
    rcases List.mem_append.mp h with hfirst | hrest
    · have hvalue := value_subset_of_property? (Option.mem_toList.mp hfirst)
      exact List.Subset.trans hvalue (List.cons_subset_cons first (List.takeWhile_sublist _).subset)
    · exact List.Subset.trans (ih hrest) (drop_dropWhile_subset _ _ nodes)

end Css

/-! ### From nodes to texts -/

namespace Text

/-- Characters with which no comment begins. -/
def IsInert (s : Text) : Prop := '/' ∉ s ∧ '*' ∉ s

theorem isInert_of_blank {s : Text} (hs : ∀ c ∈ s, isBlank c = true) : IsInert s :=
  ⟨fun h => absurd (hs _ h) (by decide), fun h => absurd (hs _ h) (by decide)⟩

theorem IsMark.isInert {s : Text} (h : IsMark s) : IsInert s := by
  obtain ⟨gap, word, rest, rfl, -⟩ := id h
  have hmark := Declaration.isMarkChar_of_isImportanceTail (Declaration.isImportanceTail_iff.mpr h)
  have hchar : ∀ c, isMarkChar c = false → c ≠ '!' → c ∉ '!' :: (gap ++ (word ++ rest)) := by
    intro c hc hne hmem
    rcases List.mem_cons.mp hmem with rfl | hmem
    · exact hne rfl
    · rw [hmark c hmem] at hc
      cases hc
  exact ⟨hchar '/' (by decide) (by decide), hchar '*' (by decide) (by decide)⟩

theorem openings_of_isBlank {s : Text} (hs : isBlankText s = true) : openings s = 0 :=
  openings_of_slash (isInert_of_blank (List.all_eq_true.mp hs)).1

theorem openings_trim (s : Text) : openings (trim s) = openings s := by
  obtain ⟨a, b, hs, ha, hb⟩ := exists_eq_trim s
  calc openings (trim s) = openings (trim s ++ b) := (openings_append_of_star (isInert_of_blank hb).2 _).symm
    _ = openings (a ++ (trim s ++ b)) := (openings_append_of_slash (isInert_of_blank ha).1 _).symm
    _ = openings s := by rw [← hs]

theorem openings_append_separator {separator : Char} (h : IsInert [separator]) (s t : Text) :
    openings (s ++ ([separator] ++ t)) = openings s + openings t := by
  have hfront : openings (s ++ [separator]) = openings s := openings_append_of_star h.2 s
  have hback : openings ([separator] ++ t) = openings t := openings_append_of_slash h.1 t
  have hmeet : openings (s ++ ([separator] ++ t)) = openings (s ++ [separator]) + openings [separator] + openings ([separator] ++ t) :=
    openings_append_append (List.cons_ne_nil separator []) s t
  rw [hmeet, hfront, hback, openings_of_slash h.1, Nat.add_zero]

theorem openings_joinWith {separator : Char} (h : IsInert [separator]) (parts : List Text) :
    openings (joinWith [separator] parts) = (parts.map openings).sum := by
  induction parts with
  | nil => rfl
  | cons part parts ih =>
    cases parts with
    | nil => simp [joinWith]
    | cons second parts =>
      rw [joinWith_cons_cons, List.append_assoc, openings_append_separator h, ih]
      rfl

theorem openings_splitTopLevel {separator : Char} (h : IsInert [separator]) (s : Text) :
    ((splitTopLevel separator s).map openings).sum = openings s := by
  rw [← openings_joinWith h, splitTopLevel, joinWith_splitFrom]

end Text

namespace Declaration

theorem openings_text {property value : Text} {d : Declaration} (h : ofSource? property value = some d) :
    openings d.text = openings value := by
  obtain ⟨front, htext, hfront⟩ := exists_front (p := (property, value)) (isOf_of_ofSource? h)
  rw [htext, openings_trim]
  rcases hfront with ⟨rfl, -⟩ | ⟨mark, hvalue, hmark⟩
  · rfl
  · exact (openings_append_of_star hmark.isInert.2 front).symm.trans (congrArg openings hvalue.symm)

end Declaration

namespace RuleSource

theorem openings_valueText (p : Css.Property) : openings (valueText p) = openings (Css.Node.print p.value) := by
  unfold valueText
  dsimp only
  split
  · have hmark : '*' ∉ " !important".toList := by decide
    exact (openings_append_of_star hmark _).trans (openings_trim _)
  · exact openings_trim _

theorem openings_selectors (raw : Text) : (((selectors raw).map Selector.raw).map openings).sum = openings raw := by
  have hblank : ∀ parts : List Text, (((parts.filter (!isBlankText ·)).map trim).map openings).sum = (parts.map openings).sum := by
    intro parts
    induction parts with
    | nil => rfl
    | cons part parts ih =>
      rw [List.filter_cons, List.map_cons, List.sum_cons, ← ih]
      cases hpart : isBlankText part with
      | true => simp [openings_of_isBlank hpart]
      | false => simp [openings_trim]
  rw [map_raw_selectors, hblank, openings_splitTopLevel]
  exact ⟨by decide, by decide⟩

end RuleSource

/-! ### Comments that show -/

namespace Css.Node

/-- The texts, which are written for the nodes, have more openings than the strings and addresses of the nodes account for. -/
def ShowsComment (nodes : List Node) (texts : List Text) : Prop := sealedOpenings nodes < (texts.map openings).sum

instance (nodes : List Node) (texts : List Text) : Decidable (ShowsComment nodes texts) :=
  inferInstanceAs (Decidable (_ < _))

/-- Without openings in strings and addresses a comment shows wherever one opens. -/
theorem showsComment_iff_exists {nodes : List Node} (h : sealedOpenings nodes = 0) (texts : List Text) :
    ShowsComment nodes texts ↔ ∃ text ∈ texts, ['/', '*'] <:+: text := by
  rw [ShowsComment, h, List.sum_pos_iff_exists_pos_nat]
  simp [openings_pos_iff]

theorem showsComment_iff {nodes : List Node} {texts : List Text} (hproper : ∀ l ∈ listLexemes nodes, l.IsProper)
    (h : (texts.map openings).sum = openings (print nodes)) : ShowsComment nodes texts ↔ listHasJoint none nodes = true := by
  rw [ShowsComment, h, openings_print hproper, ← listTotal_pos_iff, jointOpenings]
  omega

end Css.Node

namespace Rule

open Css Css.Node

/-- In the selectors of a rule a comment shows just when neighbours join in front of the braces, and in a declaration just when they join in the value that it is made of. Where no string and no address has an opening, a comment that shows is one that opens in the text. -/
theorem showsComment_iff_hasJoint {css : Text} {r : Rule} (h : r ∈ Rule.ofCss css) :
    ∃ prelude content, .rule prelude content ∈ items (Node.ofCss css) ∧ (RuleSource.ofNodes prelude content).rule? = some r ∧
      (ShowsComment prelude (r.selectors.map Selector.raw) ↔ listHasJoint none prelude = true) ∧
      (sealedOpenings prelude = 0 →
        (ShowsComment prelude (r.selectors.map Selector.raw) ↔ ∃ text ∈ r.selectors.map Selector.raw, ['/', '*'] <:+: text)) ∧
      ∀ d ∈ r.declarations, ∃ p ∈ properties content,
        Declaration.ofSource? (RuleSource.propertyName p) (RuleSource.valueText p) = some d ∧
        (ShowsComment p.value [d.text] ↔ listHasJoint none p.value = true) ∧
        (sealedOpenings p.value = 0 → (ShowsComment p.value [d.text] ↔ ['/', '*'] <:+: d.text)) := by
  obtain ⟨source, hsource, hrule⟩ := List.mem_filterMap.mp h
  obtain ⟨item, hitem, hof⟩ := List.mem_filterMap.mp hsource
  cases item with
  | atRule name => cases hof
  | unfinished => cases hof
  | rule prelude content =>
    cases hof
    obtain ⟨hprelude, hcontent⟩ := subset_of_rule_mem_items hitem
    obtain ⟨rfl, -⟩ := RuleSource.eq_of_rule? hrule
    have hpreludeProper : ∀ l ∈ listLexemes prelude, l.IsProper :=
      fun l hl => isProper_of_mem_ofCss (listLexemes_subset hprelude hl)
    have hcontentProper : ∀ l ∈ listLexemes content, l.IsProper :=
      fun l hl => isProper_of_mem_ofCss (mem_listLexemes.mpr ⟨_, hcontent, hl⟩)
    refine ⟨prelude, content, hitem, hrule, ?_, fun hsealed => showsComment_iff_exists hsealed _, ?_⟩
    · apply showsComment_iff hpreludeProper
      exact (RuleSource.openings_selectors _).trans (openings_trim _)
    · intro d hd
      obtain ⟨⟨name, value⟩, hpair, hd⟩ := List.mem_filterMap.mp hd
      obtain ⟨p, hp, hpair⟩ := List.mem_map.mp (Entries.mem_of_mem_ofList hpair)
      cases hpair
      refine ⟨p, hp, hd, ?_, fun hsealed => ?_⟩
      · apply showsComment_iff
        · exact fun l hl => hcontentProper l (listLexemes_subset (value_subset_of_mem_properties hp) hl)
        · rw [List.map_singleton, List.sum_singleton, Declaration.openings_text hd, RuleSource.openings_valueText]
      · simpa using showsComment_iff_exists hsealed [d.text]

/-- Between blanks nothing is left of a comment. -/
example :
    (Rule.ofCss ".a /* note */ .b \x7b /* c */ color: red /* d */ \x7d").map
      (fun r => r.selectorText :: r.declarations.map Declaration.text) = [[(".a  .b" : Text), ("red" : Text)]] := by
  decide +kernel

/-! ### Arguments that run together -/

/-- A comment stands between two arguments, and a string has what looks like one. -/
def oddItems : Text := "li:nth-child(2n/* odd */+1) \x7b quotes: \"/*\"; \x7d"

def oddItemsRule : Rule :=
  ⟨[Selector.ofText "li:nth-child(2n/**/+1)"], [⟨"quotes", some ⟨.string, "\"/*\"", none, none⟩, false⟩]⟩

theorem mem_ofCss_oddItems : oddItemsRule ∈ Rule.ofCss oddItems := by decide +kernel

theorem showsComment_iff_hasJoint_oddItems :
    oddItemsRule ∈ Rule.ofCss oddItems ∧
      ∃ prelude content, .rule prelude content ∈ items (Node.ofCss oddItems) ∧
        (RuleSource.ofNodes prelude content).rule? = some oddItemsRule ∧
        (ShowsComment prelude (oddItemsRule.selectors.map Selector.raw) ↔ listHasJoint none prelude = true) ∧
        (sealedOpenings prelude = 0 → (ShowsComment prelude (oddItemsRule.selectors.map Selector.raw) ↔
          ∃ text ∈ oddItemsRule.selectors.map Selector.raw, ['/', '*'] <:+: text)) ∧
        ∀ d ∈ oddItemsRule.declarations, ∃ p ∈ properties content,
          Declaration.ofSource? (RuleSource.propertyName p) (RuleSource.valueText p) = some d ∧
          (ShowsComment p.value [d.text] ↔ listHasJoint none p.value = true) ∧
          (sealedOpenings p.value = 0 → (ShowsComment p.value [d.text] ↔ ['/', '*'] <:+: d.text)) :=
  ⟨mem_ofCss_oddItems, showsComment_iff_hasJoint mem_ofCss_oddItems⟩

/-- The comment is gone, and an empty one stands in its place. -/
theorem oddItems_shows_comment :
    ¬∀ r ∈ Rule.ofCss oddItems, ∀ s ∈ r.selectors,
      "/*".toList <:+: s.raw → '"' ∈ s.raw ∨ '\'' ∈ s.raw ∨ "url(".toList <:+: s.raw := by
  decide +kernel

end Rule

end UiToolkit
