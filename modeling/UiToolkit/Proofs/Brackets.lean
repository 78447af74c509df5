import Mathlib.Data.Option.Basic
import UiToolkit.Css.Node

/-!
# Lexemes that close what they open

Lexemes that close all of their brackets come to the same nodes wherever they stand, outside of brackets or between the braces of a block, as long as they have no closing brace of their own that could close the block.
-/

namespace UiToolkit.Css.Node

/-- Whether the lexemes close the brackets waited for and all that they open, and have no other closing brace. -/
def settles : List Char → List Lexeme → Bool
  | closers, [] => closers.isEmpty
  | closers, l :: ls =>
    match Opening.ofLexeme? l, l with
    | some o, _ => settles (o.closer :: closers) ls
    | none, .closer c =>
      match closers with
      | [] => c != '\x7d' && settles [] ls
      | closer :: rest => settles (if closer == c then rest else closer :: rest) ls
    | none, _ => settles closers ls

/-- Lexemes that are no brackets. -/
def isPlain : Lexeme → Bool
  | .opener _ => false
  | .call _ => false
  | .closer _ => false
  | _ => true

/-- What a lexeme does to the brackets: it opens one, closes one, or does neither. -/
inductive Role : Lexeme → Prop where
  | opener {l : Lexeme} {o : Opening} (h : Opening.ofLexeme? l = some o) : Role l
  | closer (c : Char) : Role (.closer c)
  | plain {l : Lexeme} (h : isPlain l = true) : Role l

theorem role (l : Lexeme) : Role l := by
  cases hopener : Opening.ofLexeme? l with
  | some o => exact .opener hopener
  | none =>
    cases l with
    | closer c => exact .closer c
    | _ => first | exact .plain rfl | cases hopener

theorem settles_of_plain {l : Lexeme} (hplain : isPlain l = true) (closers : List Char) (ls : List Lexeme) :
    settles closers (l :: ls) = settles closers ls := by
  cases l <;> first | rfl | cases hplain

theorem settles_opener {l : Lexeme} {o : Opening} (hopener : Opening.ofLexeme? l = some o) (closers : List Char)
    (ls : List Lexeme) : settles closers (l :: ls) = settles (o.closer :: closers) ls := by
  cases l <;> cases hopener <;> rfl

theorem settles_closer_nil (c : Char) (ls : List Lexeme) :
    settles [] (.closer c :: ls) = (c != '\x7d' && settles [] ls) := rfl

theorem settles_closer (c closer : Char) (closers : List Char) (ls : List Lexeme) :
    settles (closer :: closers) (.closer c :: ls) = settles (if closer == c then closers else closer :: closers) ls := rfl

/-- Lexemes that settle leave the brackets around them as they are. -/
theorem settles_append {inner outer : List Char} (houter : ∀ closer ∈ outer.head?, closer = '\x7d') {ls : List Lexeme}
    (h : settles inner ls = true) (rest : List Lexeme) : settles (inner ++ outer) (ls ++ rest) = settles outer rest := by
  induction ls generalizing inner with
  | nil =>
    cases inner with
    | nil => rfl
    | cons closer inner => cases h
  | cons l ls ih =>
    rw [List.cons_append]
    cases role l with
    | @opener _ o hopener =>
      rw [settles_opener hopener] at h ⊢
      exact @ih (o.closer :: inner) h
    | closer c =>
      cases inner with
      | nil =>
        rw [settles_closer_nil, Bool.and_eq_true, bne_iff_ne] at h
        rw [List.nil_append]
        cases outer with
        | nil => rw [settles_closer_nil, bne_iff_ne.mpr h.1, Bool.true_and]; exact @ih [] h.2
        | cons closer outer =>
          rw [settles_closer, houter closer rfl, beq_false_of_ne h.1.symm, if_neg Bool.false_ne_true, ← houter closer rfl]
          exact @ih [] h.2
      | cons closer inner =>
        rw [settles_closer] at h
        rw [List.cons_append, settles_closer]
        split
        · rename_i hmatch
          rw [if_pos hmatch] at h
          exact ih h
        · rename_i hmatch
          rw [if_neg hmatch] at h
          exact @ih (closer :: inner) h
    | plain hplain =>
      rw [settles_of_plain hplain] at h ⊢
      exact ih h

/-- The open lists around the innermost one when outer lists stand around them, the bottom one going on from `base`. -/
def under (frames : Frames) (base : List Node) : Frames → List Node → Frames × List Node
  | [], nodes => (frames, nodes ++ base)
  | (o, outer) :: inner, nodes => ((o, (under frames base inner outer).2) :: (under frames base inner outer).1, nodes)

variable {frames : Frames} {base : List Node}

theorem under_cons (inner : Frames) (node : Node) (nodes : List Node) :
    under frames base inner (node :: nodes) = ((under frames base inner nodes).1, node :: (under frames base inner nodes).2) := by
  cases inner with
  | nil => rfl
  | cons frame inner => rfl

theorem nest_opener {l : Lexeme} {o : Opening} (hopener : Opening.ofLexeme? l = some o) (frames : Frames) (nodes : List Node)
    (ls : List Lexeme) : nest frames nodes (l :: ls) = nest ((o, nodes) :: frames) [] ls := by
  cases l <;> cases hopener <;> rfl

theorem nest_plain {l : Lexeme} (hplain : isPlain l = true) (frames : Frames) (nodes : List Node) (ls : List Lexeme) :
    nest frames nodes (l :: ls) = nest frames (.leaf l :: nodes) ls := by
  cases l <;> first | rfl | cases hplain

theorem nest_closer (c : Char) (o : Opening) (outer : List Node) (frames : Frames) (nodes : List Node) (ls : List Lexeme) :
    nest ((o, outer) :: frames) nodes (.closer c :: ls) =
      if o.closer == c then nest frames (o.node nodes.reverse :: outer) ls
      else nest ((o, outer) :: frames) (.leaf (.closer c) :: nodes) ls := by
  rfl

theorem nest_closer_nil (c : Char) (nodes : List Node) (ls : List Lexeme) :
    nest [] nodes (.closer c :: ls) = nest [] (.leaf (.closer c) :: nodes) ls := by
  rfl

/-- Lexemes that settle come to the same nodes between braces as outside of brackets. -/
theorem nest_append (hframes : ∀ frame ∈ frames.head?, frame.1.closer = '\x7d') {inner : Frames} {nodes : List Node}
    {ls : List Lexeme} (h : settles (inner.map (·.1.closer)) ls = true) (rest : List Lexeme) :
    nest (under frames base inner nodes).1 (under frames base inner nodes).2 (ls ++ rest) =
      nest frames ((nest inner nodes ls).reverse ++ base) rest := by
  induction ls generalizing inner nodes with
  | nil =>
    cases inner with
    | nil => simp [under, nest, close]
    | cons frame inner => cases h
  | cons l ls ih =>
    rw [List.cons_append]
    cases role l with
    | @opener _ o hopener =>
      rw [settles_opener hopener] at h
      rw [nest_opener hopener, nest_opener hopener]
      exact @ih ((o, nodes) :: inner) [] h
    | closer c =>
      cases inner with
      | nil =>
        obtain ⟨hc, hrest⟩ : c ≠ '\x7d' ∧ settles [] ls = true := by
          rw [List.map_nil, settles_closer_nil, Bool.and_eq_true, bne_iff_ne] at h
          exact h
        have hleaf : nest frames (nodes ++ base) (.closer c :: (ls ++ rest)) =
            nest frames (.leaf (.closer c) :: nodes ++ base) (ls ++ rest) := by
          cases frames with
          | nil => exact nest_closer_nil c _ _
          | cons frame frames =>
            obtain ⟨o, outer⟩ := frame
            rw [nest_closer, hframes (o, outer) rfl, beq_false_of_ne hc.symm, if_neg Bool.false_ne_true]
            rfl
        rw [nest_closer_nil]
        exact hleaf.trans (@ih [] (.leaf (.closer c) :: nodes) hrest)
      | cons frame inner =>
        obtain ⟨o, outer⟩ := frame
        rw [List.map_cons, settles_closer] at h
        rw [under, nest_closer, nest_closer]
        split
        · rename_i hmatch
          rw [if_pos hmatch] at h
          have := @ih inner (o.node nodes.reverse :: outer) h
          rwa [under_cons] at this
        · rename_i hmatch
          rw [if_neg hmatch] at h
          exact @ih ((o, outer) :: inner) (.leaf (.closer c) :: nodes) h
    | plain hplain =>
      rw [settles_of_plain hplain] at h
      rw [nest_plain hplain, nest_plain hplain]
      have := @ih inner (.leaf l :: nodes) h
      rwa [under_cons] at this

theorem nest_settled (hframes : ∀ frame ∈ frames.head?, frame.1.closer = '\x7d') {ls : List Lexeme}
    (h : settles [] ls = true) (nodes : List Node) (rest : List Lexeme) :
    nest frames nodes (ls ++ rest) = nest frames ((ofLexemes ls).reverse ++ nodes) rest :=
  @nest_append frames nodes hframes [] [] ls h rest

theorem ofLexemes_append {a b : List Lexeme} (ha : settles [] a = true) (hb : settles [] b = true) :
    ofLexemes (a ++ b) = ofLexemes a ++ ofLexemes b := by
  have hend := @nest_settled [] (fun frame h => by cases h) b hb (ofLexemes a).reverse []
  rw [List.append_nil] at hend
  rw [ofLexemes, nest_settled (fun frame h => by cases h) ha, List.append_nil, hend]
  simp [nest, close]

theorem settles_append_settled {a b : List Lexeme} (ha : settles [] a = true) (hb : settles [] b = true) :
    settles [] (a ++ b) = true :=
  (@settles_append [] [] (fun closer h => by cases h) a ha b).trans hb

theorem ofLexemes_cons {l : Lexeme} (hplain : isPlain l = true) {ls : List Lexeme} (hls : settles [] ls = true) :
    ofLexemes (l :: ls) = .leaf l :: ofLexemes ls := by
  have hsingle : ofLexemes [l] = [.leaf l] := by
    rw [ofLexemes, nest_plain hplain]
    rfl
  have happend := ofLexemes_append (a := [l]) ((settles_of_plain hplain [] []).trans rfl) hls
  rwa [hsingle] at happend

theorem ofLexemes_plain_append (plain : List Lexeme) (hplain : ∀ l ∈ plain, isPlain l = true) {ls : List Lexeme}
    (hls : settles [] ls = true) : settles [] (plain ++ ls) = true ∧ ofLexemes (plain ++ ls) = plain.map .leaf ++ ofLexemes ls := by
  induction plain with
  | nil => exact ⟨hls, rfl⟩
  | cons l plain ih =>
    obtain ⟨hl, hplain⟩ := List.forall_mem_cons.mp hplain
    obtain ⟨hsettles, hnodes⟩ := ih hplain
    refine ⟨(settles_of_plain hl [] _).trans hsettles, ?_⟩
    rw [List.cons_append, ofLexemes_cons hl hsettles, hnodes]
    rfl

/-- Braces around lexemes that settle make a block. -/
theorem ofLexemes_block {content : List Lexeme} (h : settles [] content = true) :
    ofLexemes (.opener '\x7b' :: content ++ [.closer '\x7d']) = [.block .curly (ofLexemes content)] := by
  rw [ofLexemes, List.cons_append, nest_opener rfl, nest_settled (fun frame hframe => by cases hframe; rfl) h,
    nest_closer, if_pos (by decide)]
  simp [nest, close, Opening.node, Bracket.ofOpener]

theorem settles_block {content : List Lexeme} (h : settles [] content = true) (rest : List Lexeme) :
    settles [] (.opener '\x7b' :: content ++ .closer '\x7d' :: rest) = settles [] rest := by
  rw [List.cons_append, settles_opener rfl]
  have := @settles_append [] ['\x7d'] (by simp) content h (.closer '\x7d' :: rest)
  rw [List.nil_append] at this
  exact this

end UiToolkit.Css.Node
