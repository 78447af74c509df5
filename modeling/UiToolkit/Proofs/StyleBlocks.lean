import UiToolkit.Html.Style
import UiToolkit.Proofs.Independence
import UiToolkit.Proofs.WholeSheets

/-!
# The style blocks of a document

The blocks of a document are put one behind the other, those for certain media inside a media rule, and are read again as one style sheet. When every block is made of whole rules, and every block for certain media fills its media rule, the conversion of that style sheet is put together from the conversions of the other blocks. A block that leaves something open takes the blocks behind it with it, and one that closes its media rule early is converted from there on.
-/

namespace UiToolkit

open Text

namespace Text

theorem unifyLineEnds_append {a b : Text} (h : '\r' ∈ a.getLast? → '\n' ∉ b.head?) :
    unifyLineEnds (a ++ b) = unifyLineEnds a ++ unifyLineEnds b := by
  induction a using unifyLineEnds.induct with
  | case1 => rfl
  | case2 a ih =>
    rw [List.cons_append, List.cons_append, unifyLineEnds, unifyLineEnds, ih, List.cons_append]
    cases a with
    | nil => simp
    | cons c a => exact h
  | case3 c a hne ih =>
    have hseam : ∀ cs, c = '\r' → a ++ b = '\n' :: cs → False := by
      rintro cs rfl hcs
      cases a with
      | nil => exact h rfl (by rw [show b = '\n' :: cs from hcs]; rfl)
      | cons d a => exact hne a rfl (by rw [(List.cons.inj hcs).1])
    have hrest : '\r' ∈ a.getLast? → '\n' ∉ b.head? := by
      cases a with
      | nil => simp
      | cons d a => exact h
    rw [List.cons_append, unifyLineEnds, unifyLineEnds, ih hrest, List.cons_append]
    · exact hne
    · exact hseam

end Text

namespace Css

theorem preprocess_append {a b : Text} (h : '\r' ∈ a.getLast? → '\n' ∉ b.head?) :
    preprocess (a ++ b) = preprocess a ++ preprocess b := by
  rw [preprocess, unifyLineEnds_append h, List.map_append]
  rfl

theorem preprocess_newline (r : Text) : preprocess ('\n' :: r) = '\n' :: preprocess r :=
  @preprocess_append ['\n'] r fun h => absurd h (by decide)

theorem preprocess_append_stop {stop : Char} (hstop : stop ∈ stops) (s r : Text) :
    preprocess (s ++ stop :: r) = preprocess s ++ stop :: preprocess r := by
  have hall : ∀ c ∈ stops, c ≠ '\n' ∧ c ≠ '\r' ∧ preprocess [c] = [c] := by decide
  obtain ⟨hfeed, hreturn, hself⟩ := hall stop hstop
  have hbehind : preprocess ([stop] ++ r) = [stop] ++ preprocess r := by
    rw [preprocess_append (by simpa using fun h => absurd h hreturn), hself]
  rw [preprocess_append (by simpa using fun _ => hfeed)]
  exact congrArg _ hbehind

/-- The line feed behind a text is a blank of its own, or belongs to the carriage return that the text ends with. -/
theorem exists_preprocess_newline (s : Text) :
    ∃ blanks : Text, (∀ c ∈ blanks, isSpace c = true) ∧
      ∀ r, preprocess (s ++ '\n' :: r) = preprocess s ++ (blanks ++ preprocess r) := by
  rcases List.eq_nil_or_concat s with rfl | ⟨s, c, rfl⟩
  · exact ⟨['\n'], by decide, preprocess_newline⟩
  · by_cases hc : c = '\r'
    · subst hc
      refine ⟨[], by decide, fun r => ?_⟩
      have hreturn : preprocess (s ++ ['\r']) = preprocess s ++ ['\n'] := preprocess_append (by simp)
      have hends : preprocess (s ++ ['\r', '\n']) = preprocess s ++ ['\n'] := preprocess_append (by simp)
      have hfeed : preprocess ((s ++ ['\r', '\n']) ++ r) = preprocess (s ++ ['\r', '\n']) ++ preprocess r :=
        preprocess_append (by simp)
      rw [List.concat_eq_append, hreturn, ← hends, List.nil_append, ← hfeed]
      simp
    · refine ⟨['\n'], by decide, fun r => ?_⟩
      rw [preprocess_append (by simpa using fun h => absurd h hc), preprocess_newline]
      rfl

end Css

namespace Html.StyleBlock

open Css

/-- The media that a block is for; `none` when it is for all of them. -/
def medium? (b : StyleBlock) : Option Text := (b.media.map trim).filter (!·.isEmpty)

/-- The blocks that are for all media. -/
def plain (blocks : List StyleBlock) : List StyleBlock := blocks.filter (·.medium?.isNone)

/-- Nothing of the block is read together with what stands around it. -/
def IsClosed (b : StyleBlock) : Prop :=
  match b.medium? with
  | some medium =>
    (preludeBefore? '\x7b' (preprocess ("@media " ++ medium ++ " "))).any isAtPrelude = true ∧
      fillsBraces (preprocess ('\n' :: (b.css ++ ['\n']))) = true
  | none => IsWhole (preprocess b.css)

/-- The lines of a block, each behind the line feed that joins it to what is before it. -/
def text (b : StyleBlock) : Text := b.lines.flatMap ('\n' :: ·)

theorem text_of_none {b : StyleBlock} (h : b.medium? = none) (r : Text) : b.text ++ r = '\n' :: (b.css ++ '\n' :: r) := by
  rw [medium?] at h
  rw [text, lines, h]
  simp

theorem text_of_some {b : StyleBlock} {medium : Text} (h : b.medium? = some medium) (r : Text) :
    b.text ++ r = '\n' :: (("@media " ++ medium ++ " ") ++ '\x7b' :: ('\n' :: (b.css ++ ['\n']) ++ '\x7d' :: '\n' :: r)) := by
  rw [medium?] at h
  rw [text, lines, h]
  simp

theorem combined_eq (blocks : List StyleBlock) :
    combined blocks = "/* Extracted CSS from HTML file */\n" ++ blocks.flatMap text := by
  have hlines : blocks.flatMap text = (blocks.flatMap lines).flatMap ('\n' :: ·) := List.flatMap_assoc.symm
  rw [combined, List.cons_append, List.cons_append, List.nil_append, joinWith_cons, List.flatMap_cons, hlines,
    ← List.append_assoc]
  rfl

/-- What a block is read as, wherever it stands: its own rules, and if it is for certain media one rule that is not converted. -/
theorem IsClosed.exists_items {b : StyleBlock} (h : b.IsClosed) :
    ∃ its : List Item, (∀ r, itemsOf (preprocess (b.text ++ r)) = its ++ itemsOf (preprocess r)) ∧
      its.filterMap RuleSource.ofItem? = if b.medium?.isNone then RuleSource.ofCss b.css else [] := by
  unfold IsClosed at h
  split at h
  · rename_i medium hmedium
    obtain ⟨nodes, content, hnodes, hread⟩ := exists_nodes_braces h.1 h.2
    obtain ⟨name, hitems⟩ := exists_items_atRule hnodes
    refine ⟨[.atRule name], fun r => ?_, by rw [hmedium]; rfl⟩
    rw [text_of_some hmedium, preprocess_newline, itemsOf_space rfl, preprocess_append_stop (by decide),
      preprocess_append_stop (by decide), preprocess_newline r, itemsOf, hread, hitems _ _ rfl]
    exact congrArg (_ :: ·) (itemsOf_space rfl (preprocess r))
  · rename_i hmedium
    obtain ⟨blanks, hblanks, hbehind⟩ := exists_preprocess_newline b.css
    refine ⟨itemsOf (preprocess b.css), fun r => ?_, by rw [hmedium]; rfl⟩
    rw [text_of_none hmedium, preprocess_newline, itemsOf_space rfl, hbehind, h.isolated, itemsOf_spaces hblanks]

theorem ofCss_eq (css : Text) : RuleSource.ofCss css = (itemsOf (preprocess css)).filterMap RuleSource.ofItem? := rfl

theorem ofCss_flatMap_text {blocks : List StyleBlock} (h : ∀ b ∈ blocks, b.IsClosed) :
    RuleSource.ofCss (blocks.flatMap text) = (plain blocks).flatMap fun b => RuleSource.ofCss b.css := by
  induction blocks with
  | nil => exact congrArg (List.filterMap RuleSource.ofItem?) itemsOf_nil
  | cons b blocks ih =>
    obtain ⟨hb, hblocks⟩ := List.forall_mem_cons.mp h
    obtain ⟨its, hread, hits⟩ := hb.exists_items
    have hsources : RuleSource.ofCss ((b :: blocks).flatMap text) =
        its.filterMap RuleSource.ofItem? ++ RuleSource.ofCss (blocks.flatMap text) := by
      rw [List.flatMap_cons, ofCss_eq, hread, List.filterMap_append]
      rfl
    rw [hsources, hits, ih hblocks, plain, plain, List.filter_cons]
    split
    · rfl
    · rfl

/-- The rules of the combined style sheet are those of the blocks for all media, one after the other. -/
theorem ofCss_combined {blocks : List StyleBlock} (h : ∀ b ∈ blocks, b.IsClosed) :
    Rule.ofCss (combined blocks) = (plain blocks).flatMap fun b => Rule.ofCss b.css := by
  have hheader : itemsOf (preprocess (combined blocks)) = itemsOf (preprocess (blocks.flatMap text)) := by
    have hself : preprocess "/* Extracted CSS from HTML file */\n" =
        '/' :: '*' :: (" Extracted CSS from HTML file ".toList ++ ['*', '/', '\n']) := rfl
    rw [combined_eq, preprocess_append fun h => absurd h (by decide), hself, List.cons_append, List.cons_append, List.append_assoc]
    exact (congrArg (items ∘ Node.ofLexemes) (scan_comment (by decide) _)).trans (itemsOf_space rfl _)
  rw [Rule.ofCss, ofCss_eq, hheader, ← ofCss_eq, ofCss_flatMap_text h, Rule.ofSources, List.filterMap_flatMap]
  rfl

/-- The blocks are converted to what those for all media come to by themselves, one after the other. -/
def Isolates (c : Converter) (blocks : List StyleBlock) : Prop :=
  (c.convertRules (Rule.ofCss (combined blocks))).map Conversion.text =
    ((plain blocks).mapM fun b => (c.convertRules (Rule.ofCss b.css)).map Conversion.text).map List.flatten

instance (c : Converter) (blocks : List StyleBlock) : Decidable (Isolates c blocks) :=
  inferInstanceAs (Decidable (_ = _))

/-- Closed blocks are converted apart from each other, and nothing of those for certain media is. -/
theorem isolates_of_isClosed (c : Converter) {blocks : List StyleBlock} (h : ∀ b ∈ blocks, b.IsClosed) :
    Rule.ofCss (combined blocks) = ((plain blocks).flatMap fun b => Rule.ofCss b.css) ∧ Isolates c blocks := by
  refine ⟨ofCss_combined h, ?_⟩
  rw [Isolates, ofCss_combined h]
  exact c.text_convertRules_flatMap (plain blocks) fun b => Rule.ofCss b.css

/-! ### Blocks that hold braces, unfinished rules and declarations at the top -/

/-- A comment hides a brace, and the block for print ends in an unfinished rule. -/
def closedBlocks : List StyleBlock :=
  [⟨".a \x7b color: red; \x7d /* \x7b */", none, .styleElement⟩,
    ⟨".b \x7b color: blue; \x7d .c", some " print ", .styleElement⟩,
    ⟨"@charset 'x'; p \x7b color: gray \x7d", some "  ", .styleElement⟩]

theorem isClosed_closedBlocks : ∀ b ∈ closedBlocks, b.IsClosed := by
  rw [closedBlocks, List.forall_mem_cons, List.forall_mem_cons, List.forall_mem_singleton]
  refine ⟨?_, ?_, ?_⟩
  · have hcomment : IsWhole " /* \x7b */" := .space rfl (@IsWhole.comment " \x7b " [] (by decide) .nil)
    exact @IsWhole.rule ".a " " color: red; " _ (by decide +kernel) (by decide +kernel) hcomment
  · exact ⟨by decide +kernel, by decide +kernel⟩
  · have hrule : IsWhole " p \x7b color: gray \x7d" :=
      .space rfl (@IsWhole.rule "p " " color: gray " [] (by decide +kernel) (by decide +kernel) .nil)
    exact @IsWhole.statement "@charset 'x'" _ (by decide +kernel) hrule

theorem isolates_closedBlocks : (∀ b ∈ closedBlocks, b.IsClosed) ∧
    (Converter.sample.convertRules (Rule.ofCss (combined closedBlocks))).map Conversion.text =
      .ok ".a \x7b\n    color: red;\n\x7d\nLabel \x7b\n    color: gray;\n\x7d\n" := by
  refine ⟨isClosed_closedBlocks, ?_⟩
  obtain ⟨-, hisolates⟩ := isolates_of_isClosed Converter.sample isClosed_closedBlocks
  rw [hisolates]
  decide +kernel

/-- A rule that a block leaves open takes in the next block, and a brace too many ends a media rule before its block does. -/
theorem not_isolates_openBlocks :
    ¬ Isolates Converter.sample [⟨".a \x7b color: red", none, .styleElement⟩, ⟨".b \x7b color: blue; \x7d", none, .styleElement⟩] ∧
      ¬ Isolates Converter.sample [⟨"\x7d .b \x7b color: blue; \x7d", some "print", .styleElement⟩] := by
  decide +kernel

end Html.StyleBlock

end UiToolkit
