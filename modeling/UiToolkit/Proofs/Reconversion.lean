import UiToolkit.Proofs.Denylist
import UiToolkit.Proofs.Fates
import UiToolkit.Proofs.ReadBack
import UiToolkit.Proofs.Reemission

/-!
# Converting the written text again

The text of a conversion is read back as its blocks, and each block is converted to itself: its selectors are rewritten to what they are, its lines come to themselves, and the table that they are put into keeps their order. So a second conversion changes nothing, as far as the text can be read back. Three things in a block are apart by design: letter spacing is doubled each time, a font takes the place of a definition that stands before it, and its path has to be an asset once more.
-/

namespace UiToolkit

open Attempt Text

namespace Converter

variable {config : Config}

/-! ### The second name of a font -/

theorem emitted_of_font {d : Declaration} (h : "-unity-font".toList ∈ Entries.names ((bundled config).emitted d)) :
    ∃ path, (bundled config).emitted d = [("-unity-font".toList, path), ("-unity-font-definition".toList, path)] := by
  obtain ⟨⟨name, value⟩, hmem, hname⟩ := List.mem_map.mp h
  rcases font_or_isLine_of_mem_emitted hmem with ⟨path, -, hemitted⟩ | ⟨hother, -⟩
  · exact ⟨path, hemitted⟩
  · exact absurd hname hother

theorem exists_font_split {ds : List Declaration}
    (h : "-unity-font".toList ∈ Entries.names (ds.flatMap (bundled config).emitted)) :
    ∃ front value rest, ds.flatMap (bundled config).emitted =
        front ++ ("-unity-font".toList, value) :: ("-unity-font-definition".toList, value) :: rest ∧
      "-unity-font".toList ∉ Entries.names front := by
  induction ds with
  | nil => cases h
  | cons d ds ih =>
    by_cases hd : "-unity-font".toList ∈ Entries.names ((bundled config).emitted d)
    · obtain ⟨value, hvalue⟩ := emitted_of_font hd
      exact ⟨[], value, ds.flatMap (bundled config).emitted, by rw [List.flatMap_cons, hvalue]; rfl, by simp [Entries.names]⟩
    · have hrest : "-unity-font".toList ∈ Entries.names (ds.flatMap (bundled config).emitted) := by
        simp only [Entries.names, List.flatMap_cons, List.map_append, List.mem_append] at h hd ⊢
        exact h.resolve_left hd
      obtain ⟨front, value, rest, hsplit, hfront⟩ := ih hrest
      refine ⟨(bundled config).emitted d ++ front, value, rest, by rw [List.flatMap_cons, hsplit, List.append_assoc], ?_⟩
      simp only [Entries.names, List.map_append, List.mem_append, not_or] at hd hfront ⊢
      exact ⟨hd, hfront⟩

/-- The last font of a rule is the one that is written. -/
theorem font_mem_lines {r : Rule} {before after : List Declaration} {d : Declaration} {path : Text}
    (hsplit : r.declarations = before ++ d :: after)
    (hemitted : (bundled config).emitted d = [("-unity-font".toList, path), ("-unity-font-definition".toList, path)])
    (hafter : "-unity-font".toList ∉ Entries.names (after.flatMap (bundled config).emitted)) :
    ("-unity-font".toList, path) ∈ (bundled config).lines r := by
  have hne : "-unity-font".toList ≠ "-unity-font-definition".toList := by decide
  refine Entries.mem_ofList_iff.mpr ?_
  rw [hsplit, List.flatMap_append, List.flatMap_cons, Entries.last?_append, Entries.last?_append,
    Entries.last?_eq_none_iff.mpr hafter, hemitted, Entries.last?_cons, Entries.last?_cons, Entries.last?_nil, if_pos rfl,
    if_neg hne]
  rfl

theorem isLine_of_mem_lines {r : Rule}
    (hpaths : ∀ line ∈ (bundled config).lines r, line.1 = "-unity-font".toList → config.KeepsPath line.2)
    {name value : Text} (hline : (name, value) ∈ (bundled config).lines r) : IsLine config name value := by
  obtain ⟨before, d, after, hsplit, hlast, hafter⟩ := Entries.exists_last_of_flatMap (Entries.mem_ofList_iff.mp hline)
  have hmem := Entries.mem_of_last? hlast
  rcases font_or_isLine_of_mem_emitted hmem with ⟨path, hvisible, hemitted⟩ | ⟨-, hline⟩
  · obtain ⟨hname, rfl⟩ : (name = "-unity-font".toList ∨ name = "-unity-font-definition".toList) ∧ value = path := by
      rw [hemitted] at hmem
      simp only [List.mem_cons, Prod.mk.injEq, List.not_mem_nil, or_false] at hmem
      rcases hmem with ⟨hname, hvalue⟩ | ⟨hname, hvalue⟩
      · exact ⟨.inl hname, hvalue⟩
      · exact ⟨.inr hname, hvalue⟩
    have hnone : "-unity-font".toList ∉ Entries.names (after.flatMap (bundled config).emitted) := by
      intro hfont
      obtain ⟨front, path, rest, hsplit, -⟩ := exists_font_split hfont
      rcases hname with rfl | rfl
      · exact hafter hfont
      · simp [hsplit, Entries.names] at hafter
    have hkept : config.KeepsPath value := hpaths ("-unity-font".toList, value) (font_mem_lines hsplit hemitted hnone) rfl
    exact .font hname hkept hvisible
  · exact hline

/-- In the lines of a rule the second name of a font stands before the font or right after it. -/
theorem exists_lines_split {r : Rule} (h : "-unity-font".toList ∈ ((bundled config).lines r).names) :
    ∃ before value after, (bundled config).lines r = before ++ ("-unity-font".toList, value) :: after ∧
      ("-unity-font-definition".toList ∈ Entries.names before ∨
        ∃ w rest, after = ("-unity-font-definition".toList, w) :: rest) := by
  have hemitted : "-unity-font".toList ∈ Entries.names (r.declarations.flatMap (bundled config).emitted) := by
    obtain ⟨line, hline, hname⟩ := List.mem_map.mp h
    exact hname ▸ List.mem_map_of_mem (Entries.mem_of_mem_ofList hline)
  obtain ⟨front, v, rest, hsplit, hfront⟩ := exists_font_split hemitted
  obtain ⟨names, more, hnames, hsecond⟩ := Entries.exists_names_split hfront "-unity-font-definition".toList v v rest
  rw [← hsplit] at hnames
  obtain ⟨before, tail, hlines, rfl, htail⟩ := List.map_eq_append_iff.mp hnames
  obtain ⟨⟨name, value⟩, after, rfl, rfl, rfl⟩ := List.map_eq_cons_iff.mp htail
  refine ⟨before, value, after, hlines, hsecond.imp (fun hbefore => ?_) fun hafter => ?_⟩
  · exact (List.mem_append.mp hbefore).resolve_right (by decide)
  · cases after with
    | nil => cases hafter
    | cons line after => exact ⟨line.2, after, by rw [← Option.some.inj hafter]⟩

theorem relines_font (value : Text) : relines ("-unity-font".toList, value) =
    [("-unity-font".toList, value), ("-unity-font-definition".toList, value)] :=
  if_pos rfl

theorem flatMap_relines_of_notMem {lines : Entries Text} (h : "-unity-font".toList ∉ lines.names) :
    lines.flatMap relines = lines := by
  have hsingle : ∀ line ∈ lines, relines line = [line] := by
    intro line hline
    refine if_neg fun hname => h ?_
    rw [← hname]
    exact List.mem_map_of_mem hline
  exact (List.flatMap_congr hsingle).trans (List.flatMap_singleton' lines)

/-- A font that stands behind a definition has the same value. -/
def FontsAgree (lines : Entries Text) : Prop :=
  lines.Pairwise fun first second =>
    first.1 = "-unity-font-definition".toList → second.1 = "-unity-font".toList → first.2 = second.2

instance (lines : Entries Text) : Decidable (FontsAgree lines) := inferInstanceAs (Decidable (List.Pairwise _ _))

theorem ofList_flatMap_relines {r : Rule} (hfonts : FontsAgree ((bundled config).lines r)) :
    Entries.ofList (((bundled config).lines r).flatMap relines) = (bundled config).lines r := by
  have hnodup : ((bundled config).lines r).names.Nodup := Entries.nodup_names_ofList _
  by_cases hfont : "-unity-font".toList ∈ ((bundled config).lines r).names
  · obtain ⟨before, value, after, hsplit, hsecond⟩ := exists_lines_split hfont
    rw [hsplit] at hnodup hfonts ⊢
    obtain ⟨hbefore, hafter⟩ := Entries.notMem_of_nodup_names hnodup
    have hagain : (before ++ ("-unity-font".toList, value) :: after).flatMap relines =
        before ++ ("-unity-font".toList, value) :: ("-unity-font-definition".toList, value) :: after := by
      rw [List.flatMap_append, List.flatMap_cons, flatMap_relines_of_notMem hbefore, flatMap_relines_of_notMem hafter,
        relines_font]
      simp only [List.cons_append, List.nil_append]
    rw [hagain]
    refine Entries.ofList_of_second hnodup (hsecond.imp_left fun hmem => ?_)
    obtain ⟨⟨name, w⟩, hmem, hname⟩ := List.mem_map.mp hmem
    have hvalue : w = value := (List.pairwise_append.mp hfonts).2.2 _ hmem _ List.mem_cons_self hname rfl
    exact hname ▸ hvalue ▸ hmem
  · rw [flatMap_relines_of_notMem hfont, Entries.ofList_of_nodup hnodup]

end Converter

/-! ### Blocks -/

theorem Rule.exists_text_of_mem_selectors {sources : List RuleSource} {r : Rule} (hr : r ∈ Rule.ofSources sources)
    {s : Selector} (hs : s ∈ r.selectors) : ∃ raw, trim raw = raw ∧ s = Selector.ofText raw := by
  obtain ⟨source, -, hsource⟩ := List.mem_filterMap.mp hr
  unfold RuleSource.rule? at hsource
  simp only at hsource
  split at hsource
  · cases hsource
  · cases hsource
    obtain ⟨raw, hraw, rfl⟩ := List.mem_map.mp hs
    obtain ⟨text, -, rfl⟩ := List.mem_map.mp (List.mem_filter.mp hraw).1
    exact ⟨trim text, trim_trim text, rfl⟩

/-- A block that is legible, and asks for nothing that is done anew each time. -/
structure Block.IsSettled (config : Config) (b : Block) : Prop where
  legible : b.IsLegible
  /-- Where a part was taken of a value, no quoted string and no address was cut. -/
  spans : ∀ line ∈ b.lines, Value.takesPart line.1 = true → Piece.ClosesSpans line.2
  spacing : ∀ line ∈ b.lines, line.1 = "letter-spacing".toList → ∀ n : Int, n ≠ 0 → line.2 ≠ Text.ofInt n ++ "px".toList
  paths : ∀ line ∈ b.lines, line.1 = "-unity-font".toList → config.KeepsPath line.2
  fonts : Converter.FontsAgree b.lines

namespace Converter

variable {config : Config} {sources : List RuleSource} {r : Rule} {b : Block}

/-- The header of a kept rule is accepted again, and written as it is. -/
theorem header_again (hr : r ∈ Rule.ofSources sources) (hheader : (bundled config).header r.selectors = .ok b.header) :
    (bundled config).header b.rule.selectors = .ok b.header := by
  obtain ⟨hsurvives, haccepted⟩ := header_eq_ok_iff.mp hheader
  have hfixed : ∀ text ∈ b.header,
      (Selector.ofText text).refusal? Policy.bundled = none ∧ (Selector.ofText text).rewritten = text := by
    intro text htext
    rw [haccepted] at htext
    obtain ⟨s, hs, rfl⟩ := List.mem_map.mp htext
    obtain ⟨hmem, hnone⟩ := List.mem_filter.mp hs
    obtain ⟨raw, htrim, rfl⟩ := Rule.exists_text_of_mem_selectors hr hmem
    exact Selector.rewritten_rewritten htrim (Option.isNone_iff_eq_none.mp hnone)
  have hrefusal : ∀ s ∈ b.rule.selectors, s.refusal? (bundled config).policy = none := by
    intro s hs
    obtain ⟨text, htext, rfl⟩ := List.mem_map.mp hs
    exact (hfixed text htext).1
  have hall : b.rule.selectors.filter (fun s => (s.refusal? (bundled config).policy).isNone) = b.rule.selectors :=
    List.filter_eq_self.mpr fun s hs => by rw [hrefusal s hs]; rfl
  refine header_eq_ok_iff.mpr ⟨?_, ?_⟩
  · have hne : b.rule.selectors ≠ [] := fun hnil =>
      accepted_ne_nil hsurvives (haccepted ▸ List.map_eq_nil_iff.mp hnil)
    obtain ⟨s, hs⟩ := List.exists_mem_of_ne_nil _ hne
    refine Bool.and_eq_true_iff.mpr ⟨List.all_eq_true.mpr fun s hs => ?_, List.any_eq_true.mpr ⟨s, hs, ?_⟩⟩
    · rw [hrefusal s hs]
      rfl
    · rw [hrefusal s hs]
      rfl
  · rw [accepted, hall, Block.rule, List.map_map]
    exact ((List.map_congr_left fun text htext => (hfixed text htext).2).trans (List.map_id _)).symm

/-- A settled block is converted to itself. -/
theorem keeps_rule (hr : r ∈ Rule.ofSources sources) (hkeeps : (bundled config).Keeps r b.header b.lines)
    (hb : b.IsSettled config) : (bundled config).Keeps b.rule b.header b.lines := by
  obtain ⟨hheader, -, hlines, hne⟩ := keeps_iff.mp hkeeps
  have hlines : b.lines = (bundled config).lines r := hlines
  have hhandle : ∀ line ∈ b.lines, (bundled config).handle (declarationOf line) = .ok (.emitted (relines line)) := by
    intro line hline
    exact handle_line (isLine_of_mem_lines (hlines ▸ hb.paths) (hlines ▸ hline))
      (Css.trim_of_readsValue (hb.legible.lines line hline).2) (hb.spans line hline) (hb.spacing line hline)
  refine keeps_iff.mpr ⟨header_again hr hheader, fun d hd => ?_, ?_, hne⟩
  · obtain ⟨line, hline, rfl⟩ := List.mem_map.mp hd
    exact .of_eq_ok (hhandle line hline)
  · have hagain : b.rule.declarations.flatMap (bundled config).emitted = b.lines.flatMap relines := by
      rw [Block.rule, List.flatMap_map]
      exact List.flatMap_congr fun line hline => emitted_of_handle (hhandle line hline)
    have hfonts : FontsAgree ((bundled config).lines r) := hlines ▸ hb.fonts
    rw [hagain, hlines]
    exact (ofList_flatMap_relines hfonts).symm

/-! ### A whole text -/

theorem exists_convertRules_blocks {bs : List Block} (h : ∀ b ∈ bs, (bundled config).Keeps b.rule b.header b.lines) :
    ∃ again, (bundled config).convertRules (bs.map Block.rule) = .ok again ∧ again.text = bs.flatMap Block.text := by
  have hsucceeds : Succeeds ((bs.map Block.rule).mapM (bundled config).verdict) := by
    refine succeeds_mapM.mpr fun r hr => ?_
    obtain ⟨b, hb, rfl⟩ := List.mem_map.mp hr
    obtain ⟨v, hv, -⟩ := h b hb
    exact .of_eq_ok hv
  obtain ⟨verdicts, hverdicts⟩ := hsucceeds
  refine ⟨conversionOf verdicts, map_apply_eq_ok.mpr ⟨verdicts, hverdicts, rfl⟩, ?_⟩
  have hblocks : (bundled config).blocks (bs.map Block.rule) = bs := by
    rw [blocks, List.filterMap_map]
    refine (List.filterMap_congr fun b hb => ?_).trans List.filterMap_some
    obtain ⟨v, hv, houtcome⟩ := h b hb
    rw [Function.comp_apply, hv, Except.toOption, Option.bind_some, houtcome, Outcome.block?]
  rw [text_eq_blocks (map_apply_eq_ok.mpr ⟨verdicts, hverdicts, rfl⟩), hblocks]

/-- The text is converted to itself. -/
def IsStable (config : Config) (text : Text) : Prop :=
  ∃ again, (bundled config).convertRules (Rule.ofCss text) = .ok again ∧ again.text = text

/-- What is written stays as it is when it is converted again, if its blocks are settled. -/
theorem isStable_of_convertRules (config : Config) (css : Text) {conv : Conversion}
    (h : (bundled config).convertRules (Rule.ofCss css) = .ok conv)
    (hsettled : ∀ b ∈ (bundled config).blocks (Rule.ofCss css), b.IsSettled config) : IsStable config conv.text := by
  have hkeeps : ∀ b ∈ (bundled config).blocks (Rule.ofCss css), (bundled config).Keeps b.rule b.header b.lines := by
    intro b hb
    obtain ⟨r, hr, hkept⟩ := mem_blocks.mp hb
    exact keeps_rule hr hkept (hsettled b hb)
  have hread : Rule.ofCss conv.text = ((bundled config).blocks (Rule.ofCss css)).map Block.rule := by
    rw [text_eq_blocks h]
    refine Block.ofCss_text (fun b hb => (hsettled b hb).legible) fun b hb => ?_
    obtain ⟨r, -, hkept⟩ := mem_blocks.mp hb
    obtain ⟨hheader, -, hlines, hne⟩ := keeps_iff.mp hkept
    obtain ⟨hsurvives, haccepted⟩ := header_eq_ok_iff.mp hheader
    exact ⟨haccepted ▸ accepted_ne_nil hsurvives, hne, hlines ▸ Entries.nodup_names_ofList _⟩
  rw [IsStable, hread, text_eq_blocks h]
  exact exists_convertRules_blocks hkeeps

/-! ### A label -/

def roboto : Config := ⟨[("roboto", "Assets/Roboto.ttf")], false, none⟩

def labelSheet : Text := "p \x7b font-family: Roboto; letter-spacing: normal; border-radius: .5em 1px; \x7d"

def labelBlock : Block where
  header := ["Label"]
  lines := [("-unity-font", "Assets/Roboto.ttf"), ("-unity-font-definition", "Assets/Roboto.ttf"),
    ("letter-spacing", "normal"), ("border-radius", "8px")]

theorem isSettled_labelBlock : labelBlock.IsSettled roboto where
  legible := by decide +kernel
  spans := by decide +kernel
  spacing := by
    have hpixels : ∀ line ∈ labelBlock.lines, line.1 = "letter-spacing".toList → line.2.getLast? ≠ some 'x' := by decide
    intro line hline hname n _ hvalue
    exact hpixels line hline hname (by simp [hvalue])
  paths := by decide +kernel
  fonts := by decide

theorem isStable_labelSheet :
    (bundled roboto).convertRules (Rule.ofCss labelSheet) = .ok ⟨labelBlock.text, [], [], []⟩ ∧
      IsStable roboto labelBlock.text := by
  have hconvert : (bundled roboto).convertRules (Rule.ofCss labelSheet) = .ok ⟨labelBlock.text, [], [], []⟩ := by
    rw [bundled, Policy.bundled_eq]
    decide +kernel
  have hblocks : (bundled roboto).blocks (Rule.ofCss labelSheet) = [labelBlock] := by
    rw [bundled, Policy.bundled_eq]
    decide +kernel
  refine ⟨hconvert, isStable_of_convertRules roboto labelSheet hconvert fun b hb => ?_⟩
  rw [hblocks] at hb
  exact List.mem_singleton.mp hb ▸ isSettled_labelBlock

/-! ### What is done anew each time -/

theorem isStable_iff {text : Text} :
    IsStable config text ↔ ((bundled config).convertRules (Rule.ofCss text)).toOption.map Conversion.text = some text := by
  rw [IsStable]
  cases (bundled config).convertRules (Rule.ofCss text) with
  | error e => simp [Except.toOption]
  | ok conv => simp [Except.toOption]

def spacingBlock : Block := ⟨["a"], [("letter-spacing", "2px")]⟩

/-- A font behind a definition that it did not write: the name with a blank at its end is a third declaration. -/
def definitionBlock : Block := ⟨["a"], [("-unity-font-definition", "y"), ("-unity-font", "Assets/Roboto.ttf")]⟩

/-- A font whose path is cut at its comma when it is read again. -/
def listed : Config := ⟨[("roboto", "Assets/A,Assets/B")], false, none⟩

def listedBlock : Block := ⟨["a"], [("-unity-font", "Assets/A,Assets/B"), ("-unity-font-definition", "Assets/A,Assets/B")]⟩

/-- Letter spacing is doubled once more, a font takes the place of the definition before it, and half a path is no asset. -/
theorem not_isStable :
    ((bundled .empty).convertRules (Rule.ofCss "a \x7b letter-spacing: 1px; \x7d") = .ok ⟨spacingBlock.text, [], [], []⟩ ∧
        ¬IsStable .empty spacingBlock.text) ∧
      ((bundled roboto).convertRules
            (Rule.ofCss "a \x7b -unity-font-definition: x; -unity-font: Roboto; -unity-font-definition\\ : y; \x7d") =
          .ok ⟨definitionBlock.text, [], [], []⟩ ∧
        ¬IsStable roboto definitionBlock.text) ∧
      ((bundled listed).convertRules (Rule.ofCss "a \x7b -unity-font: Roboto; \x7d") = .ok ⟨listedBlock.text, [], [], []⟩ ∧
        ¬IsStable listed listedBlock.text) := by
  simp only [isStable_iff]
  rw [bundled, bundled, bundled, Policy.bundled_eq]
  decide +kernel

end Converter

end UiToolkit
