import UiToolkit.Proofs.ReadBack

/-!
# Whole style sheets

A text made of whole rules and comments is read as the same rules whatever stands behind it. A rule is whole when its braces or its semicolon are there, all of its lexemes end before these, and every bracket is closed that it opens. No look-ahead reaches over the end of such a text, so the texts of several style sheets can be put one behind the other.
-/

namespace UiToolkit.Css

open Text Node

namespace Node

/-! ### Lexemes outside of brackets -/

/-- Whether the lexemes close the brackets waited for and all that they open. A closer that nothing waits for stands for itself. -/
def closes : List Char → List Lexeme → Bool
  | closers, [] => closers.isEmpty
  | closers, l :: ls =>
    match Opening.ofLexeme? l, l with
    | some o, _ => closes (o.closer :: closers) ls
    | none, .closer c =>
      match closers with
      | [] => closes [] ls
      | closer :: rest => closes (if closer == c then rest else closer :: rest) ls
    | none, _ => closes closers ls

theorem closes_of_plain {l : Lexeme} (hplain : isPlain l = true) (closers : List Char) (ls : List Lexeme) :
    closes closers (l :: ls) = closes closers ls := by
  cases l <;> first | rfl | cases hplain

theorem closes_opener {l : Lexeme} {o : Opening} (hopener : Opening.ofLexeme? l = some o) (closers : List Char)
    (ls : List Lexeme) : closes closers (l :: ls) = closes (o.closer :: closers) ls := by
  cases l <;> cases hopener <;> rfl

theorem closes_closer (c closer : Char) (closers : List Char) (ls : List Lexeme) :
    closes (closer :: closers) (.closer c :: ls) = closes (if closer == c then closers else closer :: closers) ls := rfl

theorem closes_of_settles {closers : List Char} {ls : List Lexeme} (h : settles closers ls = true) : closes closers ls = true := by
  induction ls generalizing closers with
  | nil => exact h
  | cons l ls ih =>
    cases role l with
    | @opener _ o hopener =>
      rw [settles_opener hopener] at h
      rw [closes_opener hopener]
      exact ih h
    | closer c =>
      cases closers with
      | nil =>
        rw [settles_closer_nil, Bool.and_eq_true] at h
        exact ih h.2
      | cons closer closers => exact ih h
    | plain hplain =>
      rw [settles_of_plain hplain] at h
      rw [closes_of_plain hplain]
      exact ih h

theorem nest_append_of_closes {inner : Frames} {nodes : List Node} {ls : List Lexeme}
    (h : closes (inner.map (·.1.closer)) ls = true) (rest : List Lexeme) :
    nest inner nodes (ls ++ rest) = nest [] (nest inner nodes ls).reverse rest := by
  induction ls generalizing inner nodes with
  | nil =>
    cases inner with
    | nil => simp [nest, close]
    | cons frame inner => cases h
  | cons l ls ih =>
    rw [List.cons_append]
    cases role l with
    | @opener _ o hopener =>
      rw [closes_opener hopener] at h
      rw [nest_opener hopener, nest_opener hopener]
      exact @ih ((o, nodes) :: inner) [] h
    | closer c =>
      cases inner with
      | nil =>
        rw [nest_closer_nil, nest_closer_nil]
        exact @ih [] (.leaf (.closer c) :: nodes) h
      | cons frame inner =>
        obtain ⟨o, outer⟩ := frame
        rw [List.map_cons, closes_closer] at h
        rw [nest_closer, nest_closer]
        split
        · rename_i hmatch
          rw [if_pos hmatch] at h
          exact @ih inner (o.node nodes.reverse :: outer) h
        · rename_i hmatch
          rw [if_neg hmatch] at h
          exact @ih ((o, outer) :: inner) (.leaf (.closer c) :: nodes) h
    | plain hplain =>
      rw [closes_of_plain hplain] at h
      rw [nest_plain hplain, nest_plain hplain]
      exact ih h

theorem close_under (base : List Node) (inner : Frames) (nodes : List Node) :
    close (under [] base inner nodes).1 (under [] base inner nodes).2 = base.reverse ++ close inner nodes := by
  induction inner generalizing nodes with
  | nil => simp [under, close]
  | cons frame inner ih =>
    obtain ⟨o, outer⟩ := frame
    have hstep := ih (o.node nodes.reverse :: outer)
    rw [under_cons] at hstep
    exact hstep

theorem nest_under (base : List Node) (inner : Frames) (nodes : List Node) (ls : List Lexeme) :
    nest (under [] base inner nodes).1 (under [] base inner nodes).2 ls = base.reverse ++ nest inner nodes ls := by
  induction ls generalizing inner nodes with
  | nil => exact close_under base inner nodes
  | cons l ls ih =>
    have hleaf := ih inner (.leaf l :: nodes)
    rw [under_cons] at hleaf
    cases role l with
    | @opener _ o hopener =>
      rw [nest_opener hopener, nest_opener hopener]
      exact ih ((o, nodes) :: inner) []
    | closer c =>
      cases inner with
      | nil => exact hleaf
      | cons frame inner =>
        obtain ⟨o, outer⟩ := frame
        rw [under, nest_closer, nest_closer]
        split
        · have hclosed := ih inner (o.node nodes.reverse :: outer)
          rwa [under_cons] at hclosed
        · exact hleaf
    | plain hplain =>
      rw [nest_plain hplain, nest_plain hplain]
      exact hleaf

/-- Lexemes that close what they open come to nodes of their own, whatever comes after them. -/
theorem ofLexemes_append_of_closes {a : List Lexeme} (ha : closes [] a = true) (b : List Lexeme) :
    ofLexemes (a ++ b) = ofLexemes a ++ ofLexemes b := by
  have hfront := @nest_append_of_closes [] [] a ha b
  have hback := nest_under (ofLexemes a).reverse [] [] b
  rw [List.reverse_reverse] at hback
  exact hfront.trans hback

end Node

/-! ### Rules one after the other -/

/-- The rules of preprocessed text. -/
def itemsOf (s : Text) : List Item := items (ofLexemes (Lexeme.scan s))

theorem itemsOf_nil : itemsOf [] = [] := by
  rw [itemsOf, scan_nil, show ofLexemes [] = [] from rfl, items]

/-- The text is read as the same rules whatever stands behind it, and does not change what that is read as. -/
def Isolated (s : Text) : Prop := ∀ r, itemsOf (s ++ r) = itemsOf s ++ itemsOf r

theorem Isolated.of_items {s : Text} {rules : List Item} (h : ∀ r, itemsOf (s ++ r) = rules ++ itemsOf r) :
    itemsOf s = rules ∧ Isolated s := by
  have hself := h []
  rw [List.append_nil, itemsOf_nil, List.append_nil] at hself
  exact ⟨hself, fun r => by rw [h, hself]⟩

theorem isolated_nil : Isolated [] := fun r => by rw [itemsOf_nil, List.nil_append, List.nil_append]

theorem Isolated.append {s t : Text} (hs : Isolated s) (ht : Isolated t) :
    itemsOf (s ++ t) = itemsOf s ++ itemsOf t ∧ Isolated (s ++ t) :=
  Isolated.of_items fun r => by rw [List.append_assoc, hs, ht, List.append_assoc]

/-- Lexemes in front of what comes next, if they are no brackets, are nodes in front of its nodes. -/
theorem itemsOf_of_plain {l : Lexeme} (hplain : isPlain l = true) {s r : Text} (hscan : Lexeme.scan s = l :: Lexeme.scan r)
    (hskip : ∀ nodes, items (.leaf l :: nodes) = items nodes) : itemsOf s = itemsOf r := by
  have happend := @ofLexemes_append_of_closes [l] ((closes_of_plain hplain [] []).trans rfl) (Lexeme.scan r)
  have hsingle : ofLexemes [l] = [.leaf l] := by
    rw [ofLexemes, nest_plain hplain]
    rfl
  rw [itemsOf, hscan, show l :: Lexeme.scan r = [l] ++ Lexeme.scan r from rfl, happend, hsingle]
  exact hskip _

theorem itemsOf_dropWhile (s : Text) : itemsOf (s.dropWhile isSpace) = itemsOf s := by
  cases hspaces : s.takeWhile isSpace with
  | nil =>
    have hsplit := List.takeWhile_append_dropWhile (p := isSpace) (l := s)
    rw [hspaces, List.nil_append] at hsplit
    rw [hsplit]
  | cons c cs =>
    have hscan : Lexeme.scan s = .space (c :: cs) :: Lexeme.scan (s.dropWhile isSpace) := by
      have hall : ∀ d ∈ c :: cs, isSpace d = true := fun d hd => List.mem_takeWhile_imp (hspaces ▸ hd)
      have hhead : ∀ d ∈ (s.dropWhile isSpace).head?, isSpace d = false := fun d hd => not_of_mem_head?_dropWhile hd
      rw [← scan_spaces hall hhead, ← hspaces, List.takeWhile_append_dropWhile]
    exact (itemsOf_of_plain rfl hscan (items_space _)).symm

theorem itemsOf_space {c : Char} (hc : isSpace c = true) (s : Text) : itemsOf (c :: s) = itemsOf s := by
  rw [← itemsOf_dropWhile, List.dropWhile_cons, if_pos hc, itemsOf_dropWhile]

theorem itemsOf_spaces {w : Text} (hw : ∀ c ∈ w, isSpace c = true) (s : Text) : itemsOf (w ++ s) = itemsOf s := by
  induction w with
  | nil => rfl
  | cons c w ih =>
    obtain ⟨hc, hw⟩ := List.forall_mem_cons.mp hw
    rw [List.cons_append, itemsOf_space hc, ih hw]

theorem commentExtent_closed {body : Text} (h : occursIn "*/" (body ++ ['*']) = false) (r : Text) :
    commentExtent (body ++ '*' :: '/' :: r) = body.length + 2 := by
  induction body with
  | nil => rfl
  | cons c body ih =>
    rw [List.cons_append, occursIn, Bool.or_eq_false_iff] at h
    have hstep : commentExtent (c :: (body ++ '*' :: '/' :: r)) = commentExtent (body ++ '*' :: '/' :: r) + 1 := by
      rw [commentExtent]
      rintro rest rfl hrest
      cases body with
      | nil => cases hrest
      | cons d body =>
        obtain ⟨rfl, -⟩ := List.cons.inj hrest
        cases h.1
    rw [List.cons_append, hstep, ih h.2, List.length_cons, Nat.add_right_comm]

theorem scan_comment {body : Text} (h : occursIn "*/" (body ++ ['*']) = false) (r : Text) :
    Lexeme.scan ('/' :: '*' :: (body ++ '*' :: '/' :: r)) = Lexeme.scan r := by
  have hdrop : ('*' :: (body ++ '*' :: '/' :: r)).drop (body.length + 2 + 1) = r := by
    rw [List.drop_succ_cons, ← List.drop_drop, List.drop_left]
    rfl
  rw [scan_cons, next_comment, commentExtent_closed h, hdrop]
  rfl

/-! ### The grammar of whole rules -/

/-- The nodes of a text in front of a stop, if its lexemes end before the stop and leave no bracket open. -/
def preludeBefore? (stop : Char) (s : Text) : Option (List Node) :=
  ((lexemesBefore? stop s).filter (closes [])).map ofLexemes

/-- Whether nodes are a prelude, or nothing at all. -/
def isRulePrelude (nodes : List Node) : Bool := nodes.isEmpty || isPrelude nodes

/-- Whether nodes are an at-keyword and what may follow it. -/
def isAtPrelude : List Node → Bool
  | .leaf (.atKeyword _) :: nodes => nodes.all (!endsAtRule ·)
  | _ => false

/-- Whether a text can stand between braces: its lexemes end before the closing brace, close what they open and no more. -/
def fillsBraces (s : Text) : Bool := (lexemesBefore? '\x7d' s).any (settles [])

/-- The text consists of blanks, comments and rules, each of them whole. -/
inductive IsWhole : Text → Prop
  | nil : IsWhole []
  | space {c : Char} {rest : Text} (hc : isSpace c = true) (h : IsWhole rest) : IsWhole (c :: rest)
  | comment {body rest : Text} (hbody : occursIn "*/" (body ++ ['*']) = false) (h : IsWhole rest) :
      IsWhole ('/' :: '*' :: (body ++ '*' :: '/' :: rest))
  | commentOpen {rest : Text} (h : IsWhole rest) : IsWhole ('<' :: ("!--".toList ++ rest))
  | commentClose {rest : Text} (h : IsWhole rest) : IsWhole ('-' :: ("->".toList ++ rest))
  | rule {prelude body rest : Text} (hprelude : (preludeBefore? '\x7b' prelude).any isRulePrelude = true)
      (hbody : fillsBraces body = true) (h : IsWhole rest) : IsWhole (prelude ++ '\x7b' :: (body ++ '\x7d' :: rest))
  | atRule {prelude body rest : Text} (hprelude : (preludeBefore? '\x7b' prelude).any isAtPrelude = true)
      (hbody : fillsBraces body = true) (h : IsWhole rest) : IsWhole (prelude ++ '\x7b' :: (body ++ '\x7d' :: rest))
  | statement {prelude rest : Text} (hprelude : (preludeBefore? ';' prelude).any isAtPrelude = true) (h : IsWhole rest) :
      IsWhole (prelude ++ ';' :: rest)

/-- What may be said of a prelude wherever it stands. -/
theorem exists_of_preludeBefore? {stop : Char} (hstop : stop ∈ stops) {s : Text} {p : List Node → Bool}
    (h : (preludeBefore? stop s).any p = true) :
    ∃ lexemes, (∀ r, Lexeme.scan (s ++ stop :: r) = lexemes ++ Lexeme.scan (stop :: r)) ∧ closes [] lexemes = true ∧
      p (ofLexemes lexemes) = true := by
  obtain ⟨nodes, hnodes, hp⟩ := (Option.any_eq_true _ _).mp h
  obtain ⟨lexemes, hlexemes, rfl⟩ := Option.map_eq_some_iff.mp hnodes
  obtain ⟨hlexemes, hcloses⟩ := Option.filter_eq_some_iff.mp hlexemes
  exact ⟨lexemes, scan_append hstop hlexemes, hcloses, hp⟩

/-- Braces are nodes of their own behind any prelude, with content that is the same behind all of them. -/
theorem exists_content_braces {body : Text} (hbody : fillsBraces body = true) :
    ∃ content, ∀ (prelude : Text) (p : List Node → Bool), (preludeBefore? '\x7b' prelude).any p = true →
      ∃ nodes, p nodes = true ∧ ∀ r, ofLexemes (Lexeme.scan (prelude ++ '\x7b' :: (body ++ '\x7d' :: r))) =
        nodes ++ .block .curly content :: ofLexemes (Lexeme.scan r) := by
  obtain ⟨inner, hlexemes, hsettles⟩ := (Option.any_eq_true _ _).mp hbody
  refine ⟨ofLexemes inner, fun prelude p hprelude => ?_⟩
  obtain ⟨front, hscan, hcloses, hp⟩ := exists_of_preludeBefore? (by decide) hprelude
  have hblock : closes [] (.opener '\x7b' :: inner ++ [.closer '\x7d']) = true :=
    closes_of_settles ((settles_block hsettles []).trans rfl)
  refine ⟨ofLexemes front, hp, fun r => ?_⟩
  have hall : Lexeme.scan (prelude ++ '\x7b' :: (body ++ '\x7d' :: r)) =
      front ++ ((.opener '\x7b' :: inner ++ [.closer '\x7d']) ++ Lexeme.scan r) := by
    rw [hscan, scan_blockSymbol (by decide), scan_append (by decide) hlexemes, scan_blockSymbol (by decide)]
    simp [isOpener, isCloser]
  rw [hall, ofLexemes_append_of_closes hcloses, ofLexemes_append_of_closes hblock, ofLexemes_block hsettles]
  rfl

/-- A prelude and braces after it are nodes of their own. -/
theorem exists_nodes_braces {prelude body : Text} {p : List Node → Bool}
    (hprelude : (preludeBefore? '\x7b' prelude).any p = true) (hbody : fillsBraces body = true) :
    ∃ nodes content, p nodes = true ∧ ∀ r, ofLexemes (Lexeme.scan (prelude ++ '\x7b' :: (body ++ '\x7d' :: r))) =
      nodes ++ .block .curly content :: ofLexemes (Lexeme.scan r) := by
  obtain ⟨content, hread⟩ := exists_content_braces hbody
  obtain ⟨nodes, hnodes, hread⟩ := hread prelude p hprelude
  exact ⟨nodes, content, hnodes, hread⟩

theorem items_rule {prelude : List Node} (h : isRulePrelude prelude = true) (content nodes : List Node) :
    items (prelude ++ .block .curly content :: nodes) = .rule prelude content :: items nodes := by
  cases prelude with
  | nil =>
    rw [List.nil_append, items]
    rfl
  | cons node prelude => exact items_prelude (by simpa [isRulePrelude] using h) content nodes

theorem exists_items_atRule {prelude : List Node} (h : isAtPrelude prelude = true) :
    ∃ name, ∀ stop nodes, endsAtRule stop = true → items (prelude ++ stop :: nodes) = .atRule name :: items nodes := by
  unfold isAtPrelude at h
  split at h
  · rename_i name rest
    refine ⟨name.map Char.toLower, fun stop nodes hstop => ?_⟩
    obtain ⟨-, hdrop⟩ := takeWhile_append_cons (List.all_eq_true.mp h) stop (by rw [hstop]; rfl) nodes
    rw [List.cons_append, items, if_neg (by simp [Node.isSpace, Node.isLiteral]), hdrop]
    rfl
  · cases h

theorem Isolated.append_of_items {piece rest : Text} {rules : List Item} (hpiece : ∀ r, itemsOf (piece ++ r) = rules ++ itemsOf r)
    (hrest : Isolated rest) : Isolated (piece ++ rest) :=
  ((Isolated.of_items hpiece).2.append hrest).2

/-- A text made of whole rules is read on its own. -/
theorem IsWhole.isolated {s : Text} (h : IsWhole s) : Isolated s := by
  induction h with
  | nil => exact isolated_nil
  | @space c rest hc _ ih => exact @Isolated.append_of_items [c] rest [] (itemsOf_space hc) ih
  | @comment body rest hbody _ ih =>
    have hpiece := @Isolated.append_of_items ('/' :: '*' :: (body ++ "*/".toList)) rest [] (fun r => by
      rw [itemsOf, List.cons_append, List.cons_append, List.append_assoc]
      exact congrArg (items ∘ ofLexemes) (scan_comment hbody r)) ih
    simpa using hpiece
  | @commentOpen rest _ ih =>
    have hmark : ∀ nodes, items (.leaf (.literal "<!--") :: nodes) = items nodes := by
      intro nodes
      rw [items, if_pos (by decide)]
      · rintro name ⟨⟩
      · rintro content ⟨⟩
    exact @Isolated.append_of_items "<!--".toList rest [] (fun r => itemsOf_of_plain rfl (by
      rw [show "<!--".toList ++ r = '<' :: ("!--".toList ++ r) from rfl, scan_cons, next_commentOpen]
      rfl) hmark) ih
  | @commentClose rest _ ih =>
    have hmark : ∀ nodes, items (.leaf (.literal "-->") :: nodes) = items nodes := by
      intro nodes
      rw [items, if_pos (by decide)]
      · rintro name ⟨⟩
      · rintro content ⟨⟩
    exact @Isolated.append_of_items "-->".toList rest [] (fun r => itemsOf_of_plain rfl (by
      rw [show "-->".toList ++ r = '-' :: ("->".toList ++ r) from rfl, scan_cons, next_commentClose]
      rfl) hmark) ih
  | @rule prelude body rest hprelude hbody _ ih =>
    obtain ⟨nodes, content, hnodes, hread⟩ := exists_nodes_braces hprelude hbody
    have hpiece := @Isolated.append_of_items (prelude ++ '\x7b' :: (body ++ ['\x7d'])) rest [.rule nodes content] (fun r => by
      rw [itemsOf, List.append_assoc, List.cons_append, List.append_assoc, List.singleton_append, hread,
        items_rule hnodes]
      rfl) ih
    simpa using hpiece
  | @atRule prelude body rest hprelude hbody _ ih =>
    obtain ⟨nodes, content, hnodes, hread⟩ := exists_nodes_braces hprelude hbody
    obtain ⟨name, hitems⟩ := exists_items_atRule hnodes
    have hpiece := @Isolated.append_of_items (prelude ++ '\x7b' :: (body ++ ['\x7d'])) rest [.atRule name] (fun r => by
      rw [itemsOf, List.append_assoc, List.cons_append, List.append_assoc, List.singleton_append, hread, hitems _ _ rfl]
      rfl) ih
    simpa using hpiece
  | @statement prelude rest hprelude _ ih =>
    obtain ⟨front, hscan, hcloses, hnodes⟩ := exists_of_preludeBefore? (by decide) hprelude
    obtain ⟨name, hitems⟩ := exists_items_atRule hnodes
    have hpiece := @Isolated.append_of_items (prelude ++ [';']) rest [.atRule name] (fun r => by
      have hend : Lexeme.scan (';' :: r) = [.literal [';']] ++ Lexeme.scan r := scan_blockSymbol (by decide) r
      rw [itemsOf, List.append_assoc, List.singleton_append, hscan, ofLexemes_append_of_closes hcloses, hend,
        ofLexemes_append_of_closes rfl]
      exact hitems _ _ rfl) ih
    simpa using hpiece

end UiToolkit.Css
