import Mathlib.Data.List.Infix
import UiToolkit.Proofs.StyleBlocks

/-!
# What stays between its braces

A rule is pasted together from a selector and a text for its braces. The text fills the braces if its lexemes end before the closing brace, close what they open and no more. Such a text is contained: whatever stands behind the rule is read as if the rule was not there. No other text is: what it leaves open takes in what comes behind it, and behind a brace too many there is more than the one rule.
-/

namespace UiToolkit.Css

open Text Node

namespace Node

/-! ### Brackets that are never closed -/

/-- Whether the lexemes leave the outermost of the brackets open, wherever they stop. -/
def staysOpen : List Char → List Lexeme → Bool
  | [], _ => false
  | _ :: _, [] => true
  | closer :: closers, l :: ls =>
    match Opening.ofLexeme? l, l with
    | some o, _ => staysOpen (o.closer :: closer :: closers) ls
    | none, .closer c => staysOpen (if closer == c then closers else closer :: closers) ls
    | none, _ => staysOpen (closer :: closers) ls

theorem staysOpen_of_nil (ls : List Lexeme) : staysOpen [] ls = false := by
  cases ls <;> rfl

theorem staysOpen_nil {closers : List Char} (hne : closers ≠ []) : staysOpen closers [] = true := by
  cases closers with
  | nil => exact absurd rfl hne
  | cons closer closers => rfl

theorem staysOpen_opener {l : Lexeme} {o : Opening} (hopener : Opening.ofLexeme? l = some o) {closers : List Char}
    (hne : closers ≠ []) (ls : List Lexeme) : staysOpen closers (l :: ls) = staysOpen (o.closer :: closers) ls := by
  cases closers with
  | nil => exact absurd rfl hne
  | cons closer closers => cases l <;> cases hopener <;> rfl

theorem staysOpen_closer (c closer : Char) (closers : List Char) (ls : List Lexeme) :
    staysOpen (closer :: closers) (.closer c :: ls) = staysOpen (if closer == c then closers else closer :: closers) ls := rfl

theorem staysOpen_of_plain {l : Lexeme} (hplain : isPlain l = true) (closers : List Char) (ls : List Lexeme) :
    staysOpen closers (l :: ls) = staysOpen closers ls := by
  cases closers with
  | nil => rw [staysOpen_of_nil, staysOpen_of_nil]
  | cons closer closers => cases l <;> first | rfl | cases hplain

/-- Lexemes between braces go on to the end, or close the braces behind some of them. -/
theorem staysOpen_or_settles (closers : List Char) (ls : List Lexeme) :
    staysOpen (closers ++ ['\x7d']) ls = true ∨ ∃ inside behind, ls = inside ++ .closer '\x7d' :: behind ∧
      settles closers inside = true := by
  induction ls generalizing closers with
  | nil => exact .inl (staysOpen_nil (by simp))
  | cons l ls ih =>
    have hstep : ∀ later, staysOpen (closers ++ ['\x7d']) (l :: ls) = staysOpen (later ++ ['\x7d']) ls →
        (∀ inside, settles closers (l :: inside) = settles later inside) →
        staysOpen (closers ++ ['\x7d']) (l :: ls) = true ∨ ∃ inside behind, l :: ls = inside ++ .closer '\x7d' :: behind ∧
          settles closers inside = true := by
      intro later hopen hsettles
      rw [hopen]
      refine (ih later).imp_right ?_
      rintro ⟨inside, behind, rfl, hinside⟩
      exact ⟨l :: inside, behind, rfl, (hsettles inside).trans hinside⟩
    cases role l with
    | @opener _ o hopener => exact hstep (o.closer :: closers) (staysOpen_opener hopener (by simp) ls) (settles_opener hopener closers)
    | closer c =>
      cases closers with
      | nil =>
        by_cases hc : c = '\x7d'
        · exact .inr ⟨[], ls, by rw [hc]; rfl, rfl⟩
        · refine hstep [] ?_ fun inside => ?_
          · rw [List.nil_append, staysOpen_closer, beq_false_of_ne (Ne.symm hc), if_neg Bool.false_ne_true]
          · rw [settles_closer_nil, bne_iff_ne.mpr hc, Bool.true_and]
      | cons closer closers =>
        refine hstep (if closer == c then closers else closer :: closers) ?_ fun inside => rfl
        rw [List.cons_append, staysOpen_closer]
        split <;> rfl
    | plain hplain =>
      exact hstep closers (staysOpen_of_plain hplain _ ls) (settles_of_plain hplain closers)

variable {o : Opening} {outer : List Node}

theorem exists_close (inner : Frames) (nodes : List Node) :
    ∃ content, close (inner ++ [(o, outer)]) nodes = outer.reverse ++ [o.node content] := by
  induction inner generalizing nodes with
  | nil => exact ⟨nodes.reverse, by simp [close]⟩
  | cons frame inner ih => exact ih (frame.1.node nodes.reverse :: frame.2)

/-- A bracket that stays open takes in all that comes behind it. -/
theorem exists_nest_of_staysOpen {inner : Frames} {ls : List Lexeme}
    (h : staysOpen ((inner ++ [(o, outer)]).map (·.1.closer)) ls = true) (nodes : List Node) :
    ∃ content, nest (inner ++ [(o, outer)]) nodes ls = outer.reverse ++ [o.node content] := by
  induction ls generalizing inner nodes with
  | nil => exact exists_close inner nodes
  | cons l ls ih =>
    cases role l with
    | @opener _ o' hopener =>
      rw [staysOpen_opener hopener (by simp)] at h
      rw [nest_opener hopener]
      exact @ih ((o', nodes) :: inner) h []
    | closer c =>
      cases inner with
      | nil =>
        rw [List.nil_append, List.map_cons, staysOpen_closer] at h
        rw [List.nil_append, nest_closer]
        split
        · rename_i hmatch
          rw [if_pos hmatch, List.map_nil, staysOpen_of_nil] at h
          cases h
        · rename_i hmatch
          rw [if_neg hmatch] at h
          exact @ih [] h _
      | cons frame inner =>
        obtain ⟨o', outer'⟩ := frame
        rw [List.cons_append, List.map_cons, staysOpen_closer] at h
        rw [List.cons_append, nest_closer]
        split
        · rename_i hmatch
          rw [if_pos hmatch] at h
          exact ih h _
        · rename_i hmatch
          rw [if_neg hmatch] at h
          exact @ih ((o', outer') :: inner) h _
    | plain hplain =>
      rw [staysOpen_of_plain hplain] at h
      rw [nest_plain hplain]
      exact ih h _

/-! ### What is passed over between rules -/

/-- Whether a node is passed over where a rule could begin. -/
def isSkipped (node : Node) : Bool := node.isSpace || node.isLiteral "<!--" || node.isLiteral "-->"

theorem isSkipped_node (o : Opening) (content : List Node) : isSkipped (o.node content) = false := by
  cases o <;> rfl

theorem isSkipped_of_items_eq_nil {nodes : List Node} (h : items nodes = []) : ∀ node ∈ nodes, isSkipped node = true := by
  induction nodes with
  | nil => nofun
  | cons node nodes ih =>
    rw [items.eq_def] at h
    dsimp only at h
    split at h
    · rename_i hskipped
      exact List.forall_mem_cons.mpr ⟨hskipped, ih h⟩
    · split at h
      · cases h
      · cases h
      · split at h <;> cases h

theorem isSkipped_of_close {frames : Frames} {nodes : List Node} (h : ∀ node ∈ close frames nodes, isSkipped node = true) :
    frames = [] ∧ ∀ node ∈ nodes, isSkipped node = true := by
  induction frames generalizing nodes with
  | nil => exact ⟨rfl, fun node hnode => h node (List.mem_reverse.mpr hnode)⟩
  | cons frame frames ih =>
    obtain ⟨-, hnodes⟩ := ih h
    have hnode := hnodes _ List.mem_cons_self
    rw [isSkipped_node] at hnode
    cases hnode

theorem isSkipped_of_nest {frames : Frames} {nodes : List Node} {ls : List Lexeme}
    (h : ∀ node ∈ nest frames nodes ls, isSkipped node = true) :
    frames = [] ∧ (∀ node ∈ nodes, isSkipped node = true) ∧ ∀ l ∈ ls, isSkipped (.leaf l) = true := by
  induction ls generalizing frames nodes with
  | nil =>
    obtain ⟨hframes, hnodes⟩ := isSkipped_of_close h
    exact ⟨hframes, hnodes, nofun⟩
  | cons l ls ih =>
    have hleaf : (∀ node ∈ nest frames (.leaf l :: nodes) ls, isSkipped node = true) →
        frames = [] ∧ (∀ node ∈ nodes, isSkipped node = true) ∧ ∀ l' ∈ l :: ls, isSkipped (.leaf l') = true := by
      intro hnest
      obtain ⟨hframes, hnodes, hls⟩ := ih hnest
      obtain ⟨hl, hnodes⟩ := List.forall_mem_cons.mp hnodes
      exact ⟨hframes, hnodes, List.forall_mem_cons.mpr ⟨hl, hls⟩⟩
    cases role l with
    | @opener _ o hopener =>
      rw [nest_opener hopener] at h
      cases (ih h).1
    | closer c =>
      cases frames with
      | nil => exact hleaf h
      | cons frame frames =>
        obtain ⟨o, outer⟩ := frame
        rw [nest_closer] at h
        split at h
        · have hnode := (ih h).2.1 _ List.mem_cons_self
          rw [isSkipped_node] at hnode
          cases hnode
        · exact hleaf h
    | plain hplain =>
      rw [nest_plain hplain] at h
      exact hleaf h

theorem isSkipped_of_items_ofLexemes {ls : List Lexeme} (h : items (ofLexemes ls) = []) : ∀ l ∈ ls, isSkipped (.leaf l) = true :=
  (isSkipped_of_nest (isSkipped_of_items_eq_nil h)).2.2

end Node

/-! ### Lexemes that take in a closing brace -/

/-- Whether a lexeme is a closer or passed over where a rule could begin. -/
def isCloserOrSkipped : Lexeme → Bool
  | .closer _ => true
  | l => isSkipped (.leaf l)

theorem isCloserOrSkipped_of_isSkipped {l : Lexeme} (h : isSkipped (.leaf l) = true) : isCloserOrSkipped l = true := by
  cases l <;> first | exact h | rfl

theorem isCloserOrSkipped_identLexeme (s : Text) : isCloserOrSkipped (identLexeme s).1 = false := by
  have hurl : ∀ cs, isCloserOrSkipped (urlLexeme cs).1 = false := by
    intro cs
    rw [urlLexeme_eq]
    rcases urlRest (cs.dropWhile isSpace) with ⟨value, ending, n⟩
    cases ending <;> rfl
  rw [identLexeme_eq]
  split
  · split
    · exact hurl _
    · rfl
  · rfl

theorem isCloserOrSkipped_numberLexeme (s : Text) (n : Nat) : isCloserOrSkipped (numberLexeme s n).1 = false := by
  unfold numberLexeme
  dsimp only
  split
  · rfl
  · split <;> rfl

theorem isCloserOrSkipped_stringLexeme (quote : Char) (cs : Text) : isCloserOrSkipped (stringLexeme quote cs).1 = false := by
  unfold stringLexeme
  dsimp only
  split <;> rfl

theorem isCloserOrSkipped_unicodeRange (cs : Text) : isCloserOrSkipped (unicodeRange cs).1 = false := by
  unfold unicodeRange
  dsimp only
  split
  · rfl
  · split
    · split <;> rfl
    · rfl

/-- What is read at the start of a text is a comment if it is no lexeme. If it is a closer or passed over, no brace stands behind its first character. -/
structure KeepsOff (c : Char) (cs : Text) (read : Option Lexeme × Nat) : Prop where
  comment : read.1 = none → c = '/' ∧ '*' ∈ cs.head?
  notMem : ∀ l ∈ read.1, isCloserOrSkipped l = true → '\x7d' ∉ cs.take read.2

theorem keepsOff_some {l : Lexeme} (h : isCloserOrSkipped l = false) (c : Char) (cs : Text) (n : Nat) : KeepsOff c cs (some l, n) := by
  refine ⟨nofun, fun l' hl' hskipped => ?_⟩
  rw [← Option.some.inj hl', h] at hskipped
  cases hskipped

theorem keepsOff_of_take (c : Char) {cs : Text} {l : Lexeme} {n : Nat}
    (h : isCloserOrSkipped l = true → '\x7d' ∉ (c :: cs).take n) : KeepsOff c cs (some l, n - 1) := by
  refine ⟨nofun, fun l' hl' hskipped hmem => ?_⟩
  rw [← Option.some.inj hl'] at hskipped
  refine h hskipped ?_
  cases n with
  | zero => cases hmem
  | succ n => exact List.mem_cons_of_mem c hmem

theorem keepsOff_next (c : Char) (cs : Text) : KeepsOff c cs (next c cs) := by
  apply next_cases
  case space =>
    refine fun _ => keepsOff_of_take c fun _ hmem => ?_
    rw [← List.prefix_iff_eq_take.mp (List.takeWhile_prefix isSpace)] at hmem
    exact absurd (List.mem_takeWhile_imp hmem) (by decide)
  case range => exact keepsOff_some (isCloserOrSkipped_unicodeRange _) _ _ _
  case arrow =>
    intro hmark
    obtain ⟨rest, hrest⟩ := List.isPrefixOf_iff_prefix.mp hmark
    refine @keepsOff_of_take c cs (.literal "-->") 3 fun _ hmem => ?_
    rw [← hrest] at hmem
    exact absurd (show '\x7d' ∈ "-->".toList from hmem) (by decide)
  case ident => exact fun _ => keepsOff_some (isCloserOrSkipped_identLexeme _) _ _ _
  case number => exact fun _ => keepsOff_some (isCloserOrSkipped_numberLexeme _ _) _ _ _
  case keyword => exact keepsOff_some rfl _ _ _
  case hash => exact keepsOff_some rfl _ _ _
  case opener => exact keepsOff_some rfl _ _ _
  case closer => exact ⟨nofun, fun _ _ _ => List.not_mem_nil⟩
  case string => exact keepsOff_some (isCloserOrSkipped_stringLexeme _ _) _ _ _
  case comment =>
    intro hcomment
    obtain ⟨rest, hrest⟩ := List.isPrefixOf_iff_prefix.mp hcomment
    obtain ⟨rfl, rfl⟩ := List.cons.inj hrest
    exact ⟨fun _ => ⟨rfl, rfl⟩, nofun⟩
  case literal =>
    refine keepsOff_of_take c fun hskipped => ?_
    have hmarks : (c :: cs).take (literalExtent (c :: cs)) = "<!--".toList ∨
        (c :: cs).take (literalExtent (c :: cs)) = "-->".toList := by
      simpa [isCloserOrSkipped, isSkipped, Node.isSpace, Node.isLiteral] using hskipped
    rcases hmarks with hmark | hmark
    · rw [hmark]
      decide
    · rw [hmark]
      decide

theorem commentExtent_cases (s : Text) :
    commentExtent s = s.length ∨ ∃ inside rest, s = inside ++ '/' :: rest ∧ commentExtent s = inside.length + 1 := by
  fun_induction commentExtent s with
  | case1 => exact .inl rfl
  | case2 rest => exact .inr ⟨['*'], rest, rfl, rfl⟩
  | case3 c cs _ ih =>
    rcases ih with hall | ⟨inside, rest, rfl, hextent⟩
    · exact .inl (congrArg (· + 1) hall)
    · exact .inr ⟨c :: inside, rest, rfl, congrArg (· + 1) hextent⟩

/-- A comment that goes on behind a text without slashes behind it goes on to the end. -/
theorem commentExtent_append_of_lt {a b : Text} (h : a.length < commentExtent (a ++ b)) (hb : '/' ∉ b) :
    commentExtent (a ++ b) = (a ++ b).length := by
  rcases commentExtent_cases (a ++ b) with hall | ⟨inside, rest, hsplit, hextent⟩
  · exact hall
  · refine absurd ?_ hb
    rw [hextent] at h
    have hdrop := congrArg (List.drop a.length) hsplit
    rw [List.drop_left, List.drop_append_of_le_length (by omega)] at hdrop
    rw [hdrop]
    exact List.mem_append_right _ List.mem_cons_self

/-- In a text with a lexeme that takes in the stop behind the text, the lexemes before that one are the same whatever stands behind the stop. -/
theorem exists_of_lexemesBefore?_eq_none {stop : Char} (hstop : stop ∈ stops) {s : Text} (h : lexemesBefore? stop s = none) :
    ∃ front c cs, (∀ r, Lexeme.scan (s ++ stop :: r) = front ++ Lexeme.scan (c :: (cs ++ stop :: r))) ∧
      ∀ r, cs.length < (next c (cs ++ stop :: r)).2 := by
  induction hlength : s.length using Nat.strongRecOn generalizing s with
  | ind n ih =>
    cases s with
    | nil =>
      rw [lexemesBefore?] at h
      cases h
    | cons c cs =>
      rw [lexemesBefore?] at h
      split at h
      · rename_i hend
        rw [Option.map_eq_none_iff] at h
        obtain ⟨front, c', cs', hscan, hlate⟩ := ih _ (by rw [List.length_drop, ← hlength, List.length_cons]; omega) h rfl
        refine ⟨(next c (cs ++ [stop])).1.toList ++ front, c', cs', fun r => ?_, hlate⟩
        rw [List.cons_append, scan_cons, next_append (r := []) (t := r) hstop hend, List.drop_append_of_le_length hend, hscan,
          List.append_assoc]
      · rename_i hlate
        refine ⟨[], c, cs, fun r => rfl, fun r => Nat.lt_of_not_le fun hend => hlate ?_⟩
        rwa [next_append (r := r) (t := []) hstop hend]

theorem drop_append_cons {a b : Text} {c : Char} {n : Nat} (h : a.length < n) :
    (a ++ c :: b).drop n = b.drop (n - a.length - 1) := by
  obtain ⟨k, rfl⟩ := Nat.exists_eq_add_of_lt h
  rw [Nat.add_assoc, Nat.add_sub_cancel_left, List.drop_length_add_append, List.drop_succ_cons, Nat.add_sub_cancel]

theorem mem_take_append_cons {a b : Text} {c : Char} {n : Nat} (h : a.length < n) : c ∈ (a ++ c :: b).take n := by
  obtain ⟨k, rfl⟩ := Nat.exists_eq_add_of_lt h
  rw [Nat.add_assoc, List.take_length_add_append, List.take_succ_cons]
  exact List.mem_append_right _ List.mem_cons_self

/-- A brace that is taken in is in no lexeme between rules. If it is in a comment, all that has no slash is in it too. -/
theorem exists_read_of_lexemesBefore?_eq_none {body : Text} (h : lexemesBefore? '\x7d' body = none) :
    ∃ (front : List Lexeme) (read : Text → Option Lexeme) (back : Text → Text),
      (∀ r, Lexeme.scan (body ++ '\x7d' :: r) = front ++ ((read r).toList ++ Lexeme.scan (back r))) ∧ (∀ r, back r <:+ r) ∧
        (∀ r, ∀ l ∈ read r, isCloserOrSkipped l = false) ∧
        (read [] = none → ∀ r, '/' ∉ r → read r = none ∧ back r = []) := by
  obtain ⟨front, c, cs, hscan, hlate⟩ := exists_of_lexemesBefore?_eq_none (by decide) h
  refine ⟨front, fun r => (next c (cs ++ '\x7d' :: r)).1, fun r => r.drop ((next c (cs ++ '\x7d' :: r)).2 - cs.length - 1),
    fun r => ?_, fun r => List.drop_suffix _ _, fun r l hl => ?_, fun hnone r hr => ?_⟩
  · rw [hscan, scan_cons, drop_append_cons (hlate r)]
  · exact Bool.eq_false_iff.mpr fun hskipped => (keepsOff_next c _).notMem l hl hskipped (mem_take_append_cons (hlate r))
  · obtain ⟨rfl, hstar⟩ := (keepsOff_next c _).comment hnone
    obtain ⟨inside, rfl⟩ : ∃ inside, cs = '*' :: inside := by
      cases cs with
      | nil => cases hstar
      | cons d inside => exact ⟨inside, by rw [Option.some.inj hstar]⟩
    have hlength := hlate r
    rw [List.cons_append, next_comment, List.length_cons, Nat.add_lt_add_iff_right] at hlength
    have hslash : '/' ∉ '\x7d' :: r := by
      rw [List.mem_cons, not_or]
      exact ⟨by decide, hr⟩
    have hall := commentExtent_append_of_lt hlength hslash
    dsimp only
    rw [List.cons_append, next_comment, hall]
    exact ⟨rfl, List.drop_eq_nil_of_le (by simp)⟩

/-! ### Rules that are read alone -/

section

variable {prelude : List Node} (hprelude : isRulePrelude prelude = true)

include hprelude

theorem length_items_of_staysOpen {ls : List Lexeme} (h : staysOpen ['\x7d'] ls = true) :
    (items (prelude ++ ofLexemes (.opener '\x7b' :: ls))).length = 1 := by
  obtain ⟨content, hcontent⟩ := @exists_nest_of_staysOpen (.bracket .curly) [] [] ls h []
  have hblock : ofLexemes (.opener '\x7b' :: ls) = [.block .curly content] := hcontent
  rw [hblock, items_rule hprelude, items]
  rfl

theorem items_of_settles {inside : List Lexeme} (h : settles [] inside = true) (behind : List Lexeme) :
    items (prelude ++ ofLexemes (.opener '\x7b' :: (inside ++ .closer '\x7d' :: behind))) =
      .rule prelude (ofLexemes inside) :: items (ofLexemes behind) := by
  have hcloses : closes [] (.opener '\x7b' :: inside ++ [.closer '\x7d']) = true :=
    closes_of_settles ((settles_block h []).trans rfl)
  have hsplit : .opener '\x7b' :: (inside ++ .closer '\x7d' :: behind) =
      (.opener '\x7b' :: inside ++ [.closer '\x7d']) ++ behind := by simp
  rw [hsplit, ofLexemes_append_of_closes hcloses, ofLexemes_block h]
  exact items_rule hprelude _ _

/-- Braces behind which an item more stands when an item is put there are closed, and not by what is put there. -/
theorem exists_closed_of_length {front nothing one : List Lexeme} (hone : .closer '\x7d' ∉ one)
    (hitemsNothing : (items (prelude ++ ofLexemes (.opener '\x7b' :: (front ++ nothing)))).length = 1)
    (hitemsOne : (items (prelude ++ ofLexemes (.opener '\x7b' :: (front ++ one)))).length = 2) :
    ∃ inside behind, front = inside ++ .closer '\x7d' :: behind ∧ settles [] inside = true ∧
      items (ofLexemes (behind ++ nothing)) = [] ∧ (items (ofLexemes (behind ++ one))).length = 1 := by
  rcases staysOpen_or_settles [] (front ++ one) with hopen | ⟨inside, rest, hsplit, hsettles⟩
  · rw [length_items_of_staysOpen hprelude hopen] at hitemsOne
    cases hitemsOne
  · obtain ⟨behind, rfl⟩ : ∃ behind, front = inside ++ .closer '\x7d' :: behind := by
      rcases List.append_eq_append_iff.mp hsplit with ⟨later, -, hlater⟩ | ⟨later, rfl, hlater⟩
      · exact absurd (hlater ▸ List.mem_append_right _ List.mem_cons_self) hone
      · cases later with
        | nil => exact absurd (List.nil_append one ▸ hlater ▸ List.mem_cons_self) hone
        | cons l later => exact ⟨later, by rw [(List.cons.inj hlater).1]⟩
    rw [List.append_assoc, List.cons_append, items_of_settles hprelude hsettles, List.length_cons] at hitemsNothing hitemsOne
    exact ⟨inside, behind, rfl, hsettles, List.length_eq_zero_iff.mp (Nat.succ.inj hitemsNothing), Nat.succ.inj hitemsOne⟩

/-- Behind a brace too many, the brace that should have closed the rule is one item more. -/
theorem settles_of_length {lexemes one : List Lexeme} (hone : .closer '\x7d' ∉ one)
    (hitemsNothing : (items (prelude ++ ofLexemes (.opener '\x7b' :: (lexemes ++ [.closer '\x7d'] ++ [])))).length = 1)
    (hitemsOne : (items (prelude ++ ofLexemes (.opener '\x7b' :: (lexemes ++ [.closer '\x7d'] ++ one)))).length = 2) :
    settles [] lexemes = true := by
  obtain ⟨inside, behind, hfront, hsettles, hskipped, -⟩ := exists_closed_of_length hprelude hone hitemsNothing hitemsOne
  rcases List.eq_nil_or_concat behind with rfl | ⟨behind, l, rfl⟩
  · obtain ⟨rfl, -⟩ := List.append_inj' hfront rfl
    exact hsettles
  · rw [List.concat_eq_append, ← List.cons_append, ← List.append_assoc] at hfront
    obtain ⟨-, hlast⟩ := List.append_inj' hfront rfl
    have hl := isSkipped_of_items_ofLexemes hskipped l (by simp)
    rw [← (List.cons.inj hlast).1] at hl
    cases hl

/-- Where a lexeme takes in the closing brace, no item of its own is made from what stands behind. -/
theorem not_length_of_lexemesBefore?_eq_none {body one : Text} (h : lexemesBefore? '\x7d' body = none) (hslash : '/' ∉ one)
    (hone : ∀ back ∈ one.tails, .closer '\x7d' ∉ Lexeme.scan back)
    (hitemsNothing : (items (prelude ++ ofLexemes (.opener '\x7b' :: Lexeme.scan (body ++ '\x7d' :: [])))).length = 1) :
    (items (prelude ++ ofLexemes (.opener '\x7b' :: Lexeme.scan (body ++ '\x7d' :: one)))).length ≠ 2 := by
  intro hitemsOne
  obtain ⟨early, read, back, hsplit, hback, hkept, hcomment⟩ := exists_read_of_lexemesBefore?_eq_none h
  rw [hsplit] at hitemsNothing hitemsOne
  have hend : Lexeme.closer '\x7d' ∉ (read one).toList ++ Lexeme.scan (back one) := by
    refine List.not_mem_append (fun hmem => ?_) (hone _ ((List.mem_tails _ _).mpr (hback one)))
    cases hkept _ _ (Option.mem_toList.mp hmem)
  obtain ⟨inside, behind, -, -, hskipped, hlength⟩ := exists_closed_of_length hprelude hend hitemsNothing hitemsOne
  cases hfirst : read [] with
  | some l =>
    have hl := isSkipped_of_items_ofLexemes hskipped l (by simp [hfirst])
    cases (hkept _ l hfirst).symm.trans (isCloserOrSkipped_of_isSkipped hl)
  | none =>
    obtain ⟨hnothing, hempty⟩ := hcomment hfirst one hslash
    rw [hfirst, List.suffix_nil.mp (hback [])] at hskipped
    rw [hnothing, hempty, hskipped] at hlength
    cases hlength

end

theorem preprocess_braces (prelude body r : Text) : preprocess (prelude ++ '\x7b' :: (body ++ '\x7d' :: r)) =
    preprocess prelude ++ '\x7b' :: (preprocess body ++ '\x7d' :: preprocess r) := by
  rw [@preprocess_append_stop '\x7b' (by decide), @preprocess_append_stop '\x7d' (by decide)]

/-- A text fills its braces exactly when the rule that it is pasted into is one rule, whatever stands behind it. -/
theorem fillsBraces_iff {prelude body : Text} (hprelude : (preludeBefore? '\x7b' (preprocess prelude)).any isRulePrelude = true) :
    fillsBraces (preprocess body) = true ↔ ∀ r, (items (ofCss (prelude ++ '\x7b' :: (body ++ '\x7d' :: r)))).length =
      (items (ofCss r)).length + 1 := by
  have hparts : ∀ r, ofCss (prelude ++ '\x7b' :: (body ++ '\x7d' :: r)) =
      ofLexemes (Lexeme.scan (preprocess prelude ++ '\x7b' :: (preprocess body ++ '\x7d' :: preprocess r))) := by
    intro r
    rw [ofCss, Lexeme.ofCss, preprocess_braces]
  constructor
  · intro hbody r
    obtain ⟨nodes, content, hnodes, hread⟩ := exists_nodes_braces hprelude hbody
    rw [hparts, hread, items_rule hnodes]
    rfl
  · intro h
    obtain ⟨front, hscan, hcloses, hrule⟩ := exists_of_preludeBefore? (by decide) hprelude
    have hlength : ∀ r n, (items (ofCss r)).length = n → (items (ofLexemes front ++
        ofLexemes (.opener '\x7b' :: Lexeme.scan (preprocess body ++ '\x7d' :: preprocess r)))).length = n + 1 := by
      rintro r n rfl
      rw [← h r, hparts, hscan, scan_blockSymbol (by decide), ofLexemes_append_of_closes hcloses]
      rfl
    -- Two texts to put behind the rule: nothing, and an item that closes no brace wherever it is begun.
    have hends : ∀ back ∈ "@a;".toList.tails, Lexeme.closer '\x7d' ∉ Lexeme.scan back := by decide +kernel
    have hnothing := hlength [] 0 (congrArg List.length itemsOf_nil)
    have hone := hlength "@a;" 1 (by decide +kernel)
    cases hbefore : lexemesBefore? '\x7d' (preprocess body) with
    | some lexemes =>
      have hsplit : ∀ r, Lexeme.scan (preprocess body ++ '\x7d' :: r) = lexemes ++ [.closer '\x7d'] ++ Lexeme.scan r := by
        intro r
        rw [scan_append (by decide) hbefore, scan_blockSymbol (by decide), List.append_assoc]
        rfl
      rw [hsplit, show Lexeme.scan (preprocess []) = [] from scan_nil] at hnothing
      rw [hsplit] at hone
      have hsettles := settles_of_length hrule (hends _ (by decide)) hnothing hone
      exact (Option.any_eq_true _ _).mpr ⟨lexemes, hbefore, hsettles⟩
    | none => exact absurd hone (not_length_of_lexemesBefore?_eq_none hrule hbefore (by decide) hends hnothing)

end UiToolkit.Css
