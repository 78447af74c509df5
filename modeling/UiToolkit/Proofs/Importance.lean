import UiToolkit.Proofs.BalancedValues
import UiToolkit.Proofs.Marks

/-!
# Importance in converted rules

Translation neither writes nor takes a mark of importance: its terms are no part of a mark, and neither is what is written for them. But the part of a value that a line is written from may end with a mark that stood inside the value: the first layer, the first word, or the word for one side of a box. So a line ends with a mark when its part does, and otherwise never.
-/

namespace UiToolkit

open Attempt Text

/-! ### Marks and passes -/

namespace Text

open Declaration Nesting

/-- A run inside a word that cannot be part of a mark and opens, closes and hides nothing. -/
structure IsForeign (run : Text) : Prop where
  inline : ∀ c ∈ run, isInline c = true
  unmarked : '!' ∉ run
  breaks : ∃ c ∈ run, isMarkChar c = false

theorem IsForeign.isRun {run : Text} (h : IsForeign run) : IsRun isInline run := by
  obtain ⟨c, hc, -⟩ := h.breaks
  exact ⟨List.ne_nil_of_mem hc, h.inline⟩

/-- The second text has other foreign runs where the first has some. -/
abbrev Rephrased : Text → Text → Prop := Replaced IsForeign IsForeign

namespace Rephrased

variable {s t : Text}

/-- What holds a foreign run is no part of a mark, and anything else stays. -/
theorem eq_or_foreign (h : Rephrased s t) :
    s = t ∨ (∃ c ∈ s, isMarkChar c = false) ∧ ∃ c ∈ t, isMarkChar c = false := by
  induction h with
  | nil => exact .inl rfl
  | same c _ ih =>
    refine ih.imp (congrArg (c :: ·)) ?_
    rintro ⟨⟨d, hd, hread⟩, e, he, hwritten⟩
    exact ⟨⟨d, List.mem_cons_of_mem c hd, hread⟩, e, List.mem_cons_of_mem c he, hwritten⟩
  | run hu hv _ _ =>
    obtain ⟨d, hd, hread⟩ := hu.breaks
    obtain ⟨e, he, hwritten⟩ := hv.breaks
    exact .inr ⟨⟨d, List.mem_append_left _ hd, hread⟩, e, List.mem_append_left _ he, hwritten⟩

theorem isImportanceTail_eq (h : Rephrased s t) : isImportanceTail s = isImportanceTail t := by
  rcases h.eq_or_foreign with rfl | ⟨hs, ht⟩
  · rfl
  · rw [isImportanceTail_eq_false hs, isImportanceTail_eq_false ht]

theorem endsWithMark_iff (h : Rephrased s t) : EndsWithMark s ↔ EndsWithMark t := by
  induction h with
  | nil => rfl
  -- An exclamation mark stays in its place, and what follows it is a tail before and after.
  | same c h ih => rw [endsWithMark_cons, endsWithMark_cons, isImportanceTail_eq h, ih]
  | run hu hv _ ih => rw [endsWithMark_append hu.unmarked, endsWithMark_append hv.unmarked, ih]

theorem firstWord (h : Rephrased s t) (hs : isBlankText s = false) (ht : isBlankText t = false) :
    Rephrased (Value.firstWord s) (Value.firstWord t) :=
  Replaced.firstWord (fun hu => hu.isRun.not_isBlank) (fun hv => hv.isRun.not_isBlank) h hs ht

theorem firstFrom (h : Rephrased s t) {n : Nesting} (hn : n.IsProper) : Rephrased (firstFrom ',' n s) (firstFrom ',' n t) := by
  induction h generalizing n with
  | nil => exact .nil
  | same c _ ih =>
    rw [Text.firstFrom, Text.firstFrom]
    split
    · exact .nil
    · exact .same c (ih (isProper_step hn c))
  | @run u v s t hu hv _ ih =>
    rw [firstFrom_append (isWhole_inline hn hu.isRun), firstFrom_append (isWhole_inline hn hv.isRun),
      after_inline hn hu.isRun hv.isRun]
    exact .run hu hv (ih (isProper_after hn v))

end Rephrased

/-! ### The passes -/

/-- The letters of the word, and those that are like them when case is ignored. -/
def markLetters : Text := "importanIMPORTANıİ"

theorem isMarkChar_cases {c : Char} (h : isMarkChar c = true) : isBlank c = true ∨ c ∈ markLetters := by
  rw [isMarkChar, Bool.or_eq_true] at h
  refine h.imp_right fun hletter => ?_
  obtain ⟨letter, hletter, hcase⟩ := List.any_eq_true.mp hletter
  have hfixed : ∀ letter ∈ "important".toList, letter.toNat < 128 ∧ letter ≠ 's' ∧ letter ≠ 'k' := by decide
  obtain ⟨hascii, hs, hk⟩ := hfixed letter hletter
  simp only [isLetterAnyCase, beq_false_of_ne hs, beq_false_of_ne hk, Bool.false_and, Bool.or_false, Bool.or_eq_true,
    Bool.and_eq_true, beq_iff_eq] at hcase
  rcases hcase with hlower | ⟨-, rfl | rfl⟩
  · have hall := forall_ascii (p := fun c => !"important".toList.contains c.toLower || markLetters.contains c) (by decide)
      (toNat_lt_of_toLower hlower hascii)
    rwa [hlower, List.contains_iff_mem.mpr hletter, Bool.not_true, Bool.false_or, List.contains_iff_mem] at hall
  · decide
  · decide

theorem not_isMarkChar_of {p : Char → Bool} (hblank : blankCodes.all (fun n => !p (Char.ofNat n)) = true)
    (hletters : ∀ d ∈ markLetters, p d = false) {c : Char} (hc : p c = true) : isMarkChar c = false := by
  refine Bool.eq_false_iff.mpr fun hmark => ?_
  rcases isMarkChar_cases hmark with h | h
  · have hnone := forall_blank (p := fun d => !p d) hblank h
    rw [hc] at hnone
    cases hnone
  · exact Bool.false_ne_true ((hletters c h).symm.trans hc)

end Text

namespace Pixels

theorem isForeign_of_readEm {before : Option Char} {c : Char} {cs : Text} {extent : Nat} {numeral : Text}
    (h : readEm before c cs = some (extent, numeral)) : IsForeign (c :: cs.take extent) where
  inline _ hd := isInline_of_readEm h hd
  unmarked hmem := by
    rcases mem_of_readEm h hmem with hnumeral | ⟨letter, hletter, hcase⟩
    · cases hnumeral
    · exact absurd hcase ((by decide : ∀ letter ∈ "rem".toList, ¬isLetterAnyCase letter '!' = true) letter hletter)
  breaks := by
    obtain ⟨n, -, -, hn, -⟩ := readEm_eq_some h
    obtain ⟨hfirst, hpos, -⟩ := Numeral.mem_tail_of_extent? hn
    obtain ⟨m, rfl⟩ := Nat.exists_eq_add_one.mpr hpos
    have hnumeral := Numeral.isNumeralChar_of_mem_take hn (by rw [List.take_succ_cons]; exact List.mem_cons_self)
    exact ⟨c, List.mem_cons_self, not_isMarkChar_of (by decide) (by decide) hnumeral⟩

theorem isForeign_ofPixels (i : Int) : IsForeign (Text.ofInt i ++ "px".toList) where
  inline _ hc := isInline_ofPixels hc
  unmarked hmem := by
    rcases List.mem_append.mp hmem with hmem | hmem
    · rcases mem_ofInt hmem with hdigit | heq
      · cases hdigit
      · cases heq
    · exact absurd hmem (by decide)
  breaks := ⟨'x', List.mem_append_right _ (by decide), by decide⟩

theorem rephrased_convertEms {value text : Text} (h : convertEms value = .ok text) : Rephrased value text := by
  obtain ⟨rfl, -⟩ := eq_rewrite_of_convertEms h
  refine Piece.replaced_rewrite none value fun source numeral hterm => ?_
  obtain ⟨i, hi⟩ := exists_emText_eq numeral
  obtain ⟨before, c, cs, extent, hread, rfl⟩ := Piece.exists_read_of_mem_ofText hterm
  exact ⟨isForeign_of_readEm hread, hi ▸ isForeign_ofPixels i⟩

end Pixels

namespace Value

theorem rephrased_fillLeadingPoints (value : Text) : Rephrased value (fillLeadingPoints value) := by
  refine Piece.replaced_rewrite none value fun text _ hterm => ?_
  obtain rfl := eq_of_leadingPoint hterm
  exact ⟨⟨by decide, by decide, '.', List.mem_cons_self, rfl⟩, by decide, by decide, '.', by decide, rfl⟩

theorem rephrased_viewportToPercent (value : Text) : Rephrased value (viewportToPercent value) := by
  refine Piece.replaced_rewrite none value fun text _ hterm => ?_
  have hletters := isRun_of_viewport hterm
  obtain ⟨c, hc⟩ := List.exists_mem_of_ne_nil text hletters.ne_nil
  refine ⟨⟨fun d hd => isInline_of (by decide) (by decide) (hletters.all d hd), fun hmem => ?_, c, hc, ?_⟩, by decide, by decide,
    '%', List.mem_cons_self, rfl⟩
  · cases hletters.all '!' hmem
  · exact not_isMarkChar_of (by decide) (by decide) (hletters.all c hc)

theorem isInert_of_isViewportLetter {c : Char} (hc : isViewportLetter c = true) : Declaration.isInert c = true := by
  have hascii : c.toNat < 128 := by
    simp only [isViewportLetter, Bool.or_eq_true, beq_iff_eq] at hc
    rcases hc with (hc | hc) | hc <;> exact toNat_lt_of_toLower hc (by decide)
  have hall := forall_ascii (p := fun d => !isViewportLetter d || Declaration.isInert d) (by decide) hascii
  rwa [hc, Bool.not_true, Bool.false_or] at hall

/-- The passes that hold for every property take no gradient away, and bring none in. -/
theorem hasGradient_normalize (value : Text) : hasGradient (normalize value) = hasGradient value := by
  have hfill : Declaration.Recast (fillLeadingPoints value) value := by
    refine (Piece.replaced_rewrite none value fun text _ hterm => ?_).symm
    obtain rfl := eq_of_leadingPoint hterm
    exact ⟨⟨by decide, by decide⟩, by decide, by decide⟩
  have hpercent : Declaration.Recast (normalize value) (fillLeadingPoints value) := by
    refine (Piece.replaced_rewrite none _ fun text _ hterm => ?_).symm
    exact ⟨(isRun_of_viewport hterm).mono isInert_of_isViewportLetter, by decide, by decide⟩
  rw [Bool.eq_iff_iff]
  constructor
  · intro h
    exact hasGradient_of_recast (recast_fillLeadingPoints value) (hasGradient_of_recast (recast_viewportToPercent _) h)
  · intro h
    exact hasGradient_of_recast hpercent (hasGradient_of_recast hfill h)

/-! ### Translated values -/

theorem endsWithMark_partFor {property s t : Text} (h : Rephrased s t) (hs : isBlankText s = false)
    (ht : isBlankText t = false) : EndsWithMark (partFor property s) ↔ EndsWithMark (partFor property t) := by
  unfold partFor
  cases hcorner : isCornerRadius (lower property) with
  | true =>
    rw [singleValued_of_isCornerRadius hcorner]
    simp only [Bool.false_eq_true, if_false, if_true]
    exact (h.firstWord hs ht).endsWithMark_iff
  | false =>
    rw [if_neg Bool.false_ne_true, if_neg Bool.false_ne_true]
    split
    · rw [endsWithMark_trim, endsWithMark_trim, firstTopLevel_eq, firstTopLevel_eq]
      exact (h.firstFrom Nesting.isProper_top).endsWithMark_iff
    · exact h.endsWithMark_iff

variable {config : Option Config} {property value text : Text}

theorem endsWithMark_partFor_normalize (hvalue : isBlankText value = false) :
    EndsWithMark (partFor property (normalize value)) ↔ EndsWithMark (partFor property value) := by
  have hfilled := fillLeadingPoints_not_blank hvalue
  calc EndsWithMark (partFor property (normalize value))
      ↔ EndsWithMark (partFor property (fillLeadingPoints value)) :=
        (endsWithMark_partFor (rephrased_viewportToPercent _) hfilled (normalize_not_blank hvalue)).symm
    _ ↔ EndsWithMark (partFor property value) :=
        (endsWithMark_partFor (rephrased_fillLeadingPoints value) hvalue hfilled).symm

theorem endsWithMark_doublePixels (h : doublePixels value = .ok text) : EndsWithMark text ↔ EndsWithMark value := by
  unfold doublePixels at h
  split at h
  · rename_i numeral unit hsplit
    split at h
    · rename_i hunit
      obtain ⟨i, -, heq⟩ := bind_eq_ok.mp h
      rw [← return_eq_ok.mp heq]
      obtain ⟨n, hn, hparts⟩ := Option.map_eq_some_iff.mp hsplit
      obtain ⟨rfl, rfl⟩ := Prod.mk.inj hparts
      refine iff_of_false (not_endsWithMark (Pixels.isForeign_ofPixels i).unmarked) ?_
      rw [← endsWithMark_trim]
      refine not_endsWithMark fun hmem => ?_
      rw [← List.take_append_drop n (trim value)] at hmem
      rcases List.mem_append.mp hmem with hnumeral | hrest
      · cases Numeral.isNumeralChar_of_mem_take hn hnumeral
      · have hlower : '!' ∈ asciiLower ((trim value).drop n) := List.mem_map.mpr ⟨'!', hrest, rfl⟩
        rw [beq_iff_eq.mp hunit] at hlower
        exact absurd hlower (by decide)
    · rw [Except.ok.inj h]
  · rw [Except.ok.inj h]

theorem endsWithMark_finish {part : Text} (h : finish property part = .ok text) : EndsWithMark text ↔ EndsWithMark part := by
  obtain ⟨px, hpx, h⟩ := bind_eq_ok.mp h
  rw [(Pixels.rephrased_convertEms hpx).endsWithMark_iff]
  split at h
  · exact endsWithMark_doublePixels h
  · rw [return_eq_ok.mp h]

/-- A translated value ends with a mark just when the part does that the property is given, unless it gives way to `none`. -/
theorem endsWithMark_translate (hvalue : isBlankText value = false) (hfont : lower property ≠ "-unity-font".toList)
    (h : translate config property value = .ok text) :
    EndsWithMark text ↔
      (gradientFree.contains (lower property) && hasGradient value) = false ∧ EndsWithMark (partFor property value) := by
  rw [← endsWithMark_partFor_normalize hvalue]
  by_cases hdefinition : lower property = "-unity-font-definition".toList
  · have hpart : partFor property (normalize value) = trim (firstTopLevel ',' (normalize value)) := by
      rw [partFor, hdefinition]
      rfl
    have hgradient : gradientFree.contains (lower property) = false := by
      rw [hdefinition]
      decide
    rw [translate_definition hvalue hdefinition] at h
    rw [hgradient, Bool.false_and, and_iff_right rfl, hpart, Except.ok.inj h]
  · rw [translate_eq hvalue hfont hdefinition, hasGradient_normalize] at h
    split at h
    · rename_i hgradient
      rw [← Except.ok.inj h, hgradient]
      exact iff_of_false (not_endsWithMark (by decide)) fun h => Bool.false_ne_true h.1.symm
    · rename_i hgradient
      rw [Bool.not_eq_true] at hgradient
      rw [hgradient, and_iff_right rfl]
      exact endsWithMark_finish h

theorem not_endsWithMark_translate (hvalue : '!' ∉ value) (hfont : lower property ≠ "-unity-font".toList)
    (h : translate config property value = .ok text) : ¬EndsWithMark text := by
  cases hblank : isBlankText value with
  | true =>
    rw [translate_blank hblank] at h
    rw [← Except.ok.inj h]
    exact not_endsWithMark hvalue
  | false =>
    rw [endsWithMark_translate hblank hfont h]
    rintro ⟨-, hpart⟩
    have hwhole : Piece.IsPart (partFor property value) value := isPart_partFor hblank
    obtain ⟨front, rest, heq, -⟩ := hwhole
    refine not_endsWithMark (fun hmem => hvalue ?_) hpart
    rw [heq]
    exact List.mem_append_right _ (List.mem_append_left _ hmem)

/-- A property without rules of its own takes its value as it is. -/
theorem endsWithMark_translate_whole (hvalue : isBlankText value = false) (hsingle : lower property ∉ singleValued)
    (hcorner : isCornerRadius (lower property) = false) (hgradient : lower property ∉ gradientFree)
    (h : translate config property value = .ok text) : EndsWithMark text ↔ EndsWithMark value := by
  have hfont : lower property ≠ "-unity-font".toList := by
    rintro heq
    exact hsingle (heq ▸ List.mem_cons_self)
  have htakes : takesPart property = false := by
    rw [takesPart, hcorner, Bool.or_false, ← Bool.not_eq_true, List.contains_iff_mem]
    exact hsingle
  have hfree : gradientFree.contains (lower property) = false := by
    rw [← Bool.not_eq_true, List.contains_iff_mem]
    exact hgradient
  rw [endsWithMark_translate hvalue hfont h, hfree, Bool.false_and, and_iff_right rfl, partFor_of_not_takesPart htakes]

end Value

/-! ### Substitutes -/

namespace Filling

/-- The filling makes no use of the value, or makes a shadow of it, and writes no exclamation mark. -/
def isUnmarked : Filling → Bool
  | .template text => !text.contains '$' && !text.contains '!'
  | .keywords table => table.all fun (_, text) => !text.contains '!'
  | .transformation t => t == .shadow
  | .nothing => true

theorem unmarked_shadowText {value text : Text} (h : Transformation.shadowText value = .ok (some text)) : '!' ∉ text := by
  obtain ⟨offsets, room, terms, hoffsets, rfl⟩ := Transformation.exists_of_shadowText h
  have hunmarked : ∀ px ∈ offsets, '!' ∉ px := by
    refine Transformation.forall_leadingLengths (p := ('!' ∉ ·)) (fun hpx hmem => ?_) hoffsets
    rcases Pixels.mem_ofTerm? hpx hmem with hnumeral | hunit
    · cases hnumeral
    · exact absurd hunit (by decide)
  intro hmem
  rcases mem_joinWith hmem with hspace | ⟨part, hpart, hmem⟩
  · exact absurd hspace (by decide)
  · rcases List.mem_append.mp hpart with hpart | hpart
    · exact hunmarked part hpart hmem
    · rw [List.mem_singleton.mp hpart] at hmem
      exact absurd hmem (by decide)

theorem unmarked_fill? {f : Filling} {value text : Text} (hunmarked : f.isUnmarked = true)
    (hfill : f.fill? value = .ok (some text)) : '!' ∉ text := by
  cases f with
  | template template =>
    cases hfill
    simp only [isUnmarked, Bool.and_eq_true, Bool.not_eq_true', ← Bool.not_eq_true, List.contains_iff_mem] at hunmarked
    rw [replaceAll_of_not_mem hunmarked.1]
    exact hunmarked.2
  | keywords table =>
    obtain ⟨before, after, hsplit, -⟩ := List.lookup_eq_some_iff.mp (Except.ok.inj hfill)
    have hentry := List.all_eq_true.mp hunmarked (lower (trim value), text) (by simp [hsplit])
    simpa using hentry
  | transformation t =>
    rw [beq_iff_eq.mp hunmarked] at hfill
    exact unmarked_shadowText hfill
  | nothing => cases hfill

/-- The filling is the value as it is given. -/
def isIdentity : Filling → Bool
  | .template text => text == "$value".toList
  | _ => false

theorem fill?_of_isIdentity {f : Filling} (h : f.isIdentity = true) (value : Text) : f.fill? value = .ok (some value) := by
  cases f with
  | template text => rw [fill?, beq_iff_eq.mp h, replaceAll_self]
  | _ => cases h

end Filling

namespace FallbackTable

/-- Only opacity and inset write what they are given. -/
theorem isUnmarked_bundled : ∀ entry ∈ bundled, entry.1 ≠ "opacity".toList → entry.1 ≠ "inset".toList →
    ∀ rule ∈ entry.2, ∀ s ∈ rule.substitutes, s.filling.isUnmarked = true ∧ lower s.property ≠ "-unity-font".toList := by
  decide

theorem isIdentity_bundled : ∀ entry ∈ bundled, entry.1 = "opacity".toList →
    ∀ rule ∈ entry.2, ∀ s ∈ rule.substitutes, s.filling.isIdentity = true ∧ s.property = "opacity".toList := by
  decide

theorem find?_sideNames : ∀ entry ∈ sideNames, sideNames.find? (·.2 == entry.2) = some entry := by decide

end FallbackTable

/-! ### Lines -/

/-- One mark at the end of the value becomes the flag and is cut off with the blanks, so a mark is left where the value has another one before it. -/
structure Declaration.TakesMark (p : Text × Text) (d : Declaration) : Prop where
  property : d.property = trim p.1
  flag : d.important = true ↔ EndsWithMark p.2
  text : ∃ front, d.text = trim front ∧ (p.2 = front ∧ ¬EndsWithMark p.2 ∨ ∃ mark, p.2 = front ++ mark ∧ IsMark mark)
  ending : EndsWithMark d.text ↔ RepeatsMark p.2

theorem RuleSource.takesMarks_of_rule? {s : RuleSource} {r : Rule} (h : s.rule? = some r) :
    List.Forall₂ Declaration.TakesMark (s.declarations.filter Declaration.isUsable) r.declarations :=
  (gives_of_rule? h).declarations.imp fun _ _ hd =>
    ⟨hd.1, Declaration.important_iff hd, Declaration.exists_front hd, Declaration.endsWithMark_text_iff hd⟩

namespace Converter

/-- The part of the value of a declaration that ends up at the end of the line for `name`, if any does. -/
def carried? (c : Converter) (d : Declaration) (name : Text) : Option Text :=
  let property := renamed d.property
  if d.isCustom then some d.text
  else if c.policy.isNative property then
    if Value.gradientFree.contains (lower property) && Value.hasGradient d.text then none
    else some (Value.partFor property d.text)
  else if property == "opacity".toList then some d.text
  else if property == "inset".toList then
    (FallbackTable.sideNames.find? (·.2 == name)).bind fun (side, _) => Transformation.edge? side (words d.text)
  else none

variable {c : Converter} {d : Declaration} {value : Text}

theorem endsWithMark_opacity (hfallbacks : c.fallbacks = FallbackTable.bundled) {property : Text}
    (hproperty : lower property = "opacity".toList) {pairs : List (Text × Text)}
    (h : c.substitutes property value = .ok pairs) {line : Text × Text} (hmem : line ∈ pairs) :
    EndsWithMark line.2 ↔ EndsWithMark value := by
  obtain ⟨synthesized, source, hsynthesized, hsource, -, htranslate, hvisible⟩ := mem_substitutes h hmem
  obtain ⟨rules, hentry, rule, hrule, s, hs, htarget, filled, hfilled, rfl⟩ :=
    FallbackTable.mem_synthesize (hfallbacks ▸ hsynthesized) hsource
  obtain ⟨hidentity, hname⟩ := FallbackTable.isIdentity_bundled _ hentry hproperty rule hrule s hs
  rw [Filling.fill?_of_isIdentity hidentity] at hfilled
  obtain rfl := Except.ok.inj hfilled
  rw [htarget, hname] at htranslate
  rw [Value.endsWithMark_translate_whole (Value.not_blank_of_translate htranslate hvisible) (by decide) (by decide) (by decide)
    htranslate]
  exact endsWithMark_trim value

theorem endsWithMark_inset (hfallbacks : c.fallbacks = FallbackTable.bundled) {pairs : List (Text × Text)}
    (h : c.substitutes "inset" value = .ok pairs) {line : Text × Text} (hmem : line ∈ pairs) :
    ∃ side part, (side, line.1) ∈ FallbackTable.sideNames ∧ Transformation.edge? side (words value) = some part ∧
      (EndsWithMark line.2 ↔ EndsWithMark part) := by
  obtain ⟨synthesized, source, hsynthesized, hsource, -, htranslate, hvisible⟩ := mem_substitutes h hmem
  obtain ⟨side, hname, hside⟩ := FallbackTable.mem_synthesize_inset (hfallbacks ▸ hsynthesized) hsource
  obtain ⟨hsingle, hcorner, hgradient⟩ := (by decide : ∀ entry ∈ FallbackTable.sideNames,
    lower entry.2 ∉ Value.singleValued ∧ Value.isCornerRadius (lower entry.2) = false ∧
      lower entry.2 ∉ Value.gradientFree) _ hname
  exact ⟨side, source, hname, hside, Value.endsWithMark_translate_whole (Value.not_blank_of_translate htranslate hvisible) hsingle
    hcorner hgradient htranslate⟩

theorem not_endsWithMark_substitute (hfallbacks : c.fallbacks = FallbackTable.bundled) {property : Text}
    (hopacity : lower property ≠ "opacity".toList) (hinset : lower property ≠ "inset".toList) {pairs : List (Text × Text)}
    (h : c.substitutes property value = .ok pairs) {line : Text × Text} (hmem : line ∈ pairs) : ¬EndsWithMark line.2 := by
  obtain ⟨synthesized, source, hsynthesized, hsource, -, htranslate, -⟩ := mem_substitutes h hmem
  obtain ⟨rules, hentry, rule, hrule, s, hs, htarget, filled, hfilled, rfl⟩ :=
    FallbackTable.mem_synthesize (hfallbacks ▸ hsynthesized) hsource
  obtain ⟨hunmarked, hfont⟩ := FallbackTable.isUnmarked_bundled _ hentry hopacity hinset rule hrule s hs
  refine Value.not_endsWithMark_translate (fun hmem => ?_) (htarget ▸ hfont) htranslate
  have hmem := (infix_trimWhile isBlank _).mem hmem
  cases filled with
  | none => cases hmem
  | some text => exact Filling.unmarked_fill? hunmarked hfilled hmem

theorem endsWithMark_native (hassets : c.config.assets = []) (hcustom : d.isCustom = false)
    (hnative : c.policy.isNative (renamed d.property) = true) {text : Text}
    (h : c.translate (renamed d.property) d.text = .ok text) (hvisible : isBlankText text = false) (name : Text) :
    EndsWithMark text ↔ ∃ part ∈ c.carried? d name, EndsWithMark part := by
  have hvalue := Value.not_blank_of_translate h hvisible
  have hfont : lower (renamed d.property) ≠ "-unity-font".toList := by
    intro hfont
    rw [translate, Value.translate_font hvalue hfont, Option.map_some, Option.getD_some,
      Value.fontPath_of_assets_eq_nil hassets] at h
    rw [← Except.ok.inj h] at hvisible
    cases hvisible
  rw [Value.endsWithMark_translate hvalue hfont h, carried?, hcustom, if_neg Bool.false_ne_true, hnative, if_pos rfl]
  cases Value.gradientFree.contains (lower (renamed d.property)) && Value.hasGradient d.text <;> simp

theorem endsWithMark_substitute (hfallbacks : c.fallbacks = FallbackTable.bundled) (hcustom : d.isCustom = false)
    (hother : c.policy.isNative (renamed d.property) = false) {pairs : List (Text × Text)}
    (h : c.substitutes (renamed d.property) d.text = .ok pairs) {line : Text × Text} (hmem : line ∈ pairs) :
    EndsWithMark line.2 ↔ ∃ part ∈ c.carried? d line.1, EndsWithMark part := by
  rw [carried?, hcustom, if_neg Bool.false_ne_true, hother, if_neg Bool.false_ne_true]
  by_cases hopacity : renamed d.property = "opacity".toList
  · rw [hopacity] at h
    simp [hopacity, endsWithMark_opacity hfallbacks (by decide) h hmem]
  by_cases hinset : renamed d.property = "inset".toList
  · rw [hinset] at h
    obtain ⟨side, part, hname, hside, hiff⟩ := endsWithMark_inset hfallbacks h hmem
    have hfind := FallbackTable.find?_sideNames _ hname
    simp [hinset, hfind, hside, hiff]
  · simp only [beq_false_of_ne hopacity, beq_false_of_ne hinset, Bool.false_eq_true, if_false]
    refine iff_of_false ?_ ?_
    · exact not_endsWithMark_substitute hfallbacks (fun h => hopacity (renamed_eq_of_lower (by decide) h))
        (fun h => hinset (renamed_eq_of_lower (by decide) h)) h hmem
    · rintro ⟨_, hpart, -⟩
      cases hpart

/-- Without assets, a line ends with a mark just when the part does that the value brings to its end. -/
theorem endsWithMark_of_mem_emitted (hfallbacks : c.fallbacks = FallbackTable.bundled) (hassets : c.config.assets = [])
    {line : Text × Text} (hmem : line ∈ c.emitted d) :
    EndsWithMark line.2 ↔ ∃ part ∈ c.carried? d line.1, EndsWithMark part := by
  rcases mem_emitted hmem with ⟨hcustom, -, htext⟩ | ⟨hcustom, hnative, htranslate, hvisible, -⟩ |
      ⟨hcustom, -, hother, pairs, hpairs, hpair⟩
  · simp [carried?, hcustom, htext]
  · exact endsWithMark_native hassets hcustom hnative htranslate hvisible line.1
  · exact endsWithMark_substitute hfallbacks hcustom hother hpairs hpair

/--
Every declaration that is read has the mark of its value as a flag and keeps at most the marks before it. Each line that is written comes from a declaration, and ends with a mark just when the part of its value does that is carried to the end of the line.
-/
theorem importance_iff (hfallbacks : c.fallbacks = FallbackTable.bundled) (hassets : c.config.assets = [])
    (sources : List RuleSource) :
    (∀ r ∈ Rule.ofSources sources, ∃ s ∈ sources, s.rule? = some r ∧
      List.Forall₂ Declaration.TakesMark (s.declarations.filter Declaration.isUsable) r.declarations) ∧
    ∀ conv, c.convertRules (Rule.ofSources sources) = .ok conv →
      conv.text = (c.blocks (Rule.ofSources sources)).flatMap Block.text ∧
      ∀ b ∈ c.blocks (Rule.ofSources sources), ∀ line ∈ b.lines, ∃ r ∈ Rule.ofSources sources, ∃ d ∈ r.declarations,
        line ∈ c.emitted d ∧ (EndsWithMark line.2 ↔ ∃ part ∈ c.carried? d line.1, EndsWithMark part) := by
  constructor
  · intro r hr
    obtain ⟨s, hs, hrule⟩ := List.mem_filterMap.mp hr
    exact ⟨s, hs, hrule, RuleSource.takesMarks_of_rule? hrule⟩
  · intro conv hconv
    refine ⟨text_eq_blocks hconv, fun b hb line hline => ?_⟩
    obtain ⟨r, hr, hkeeps⟩ := mem_blocks.mp hb
    obtain ⟨-, -, hlines, -⟩ := keeps_iff.mp hkeeps
    rw [hlines] at hline
    obtain ⟨d, hd, hmem⟩ := List.mem_flatMap.mp (Entries.mem_of_mem_ofList hline)
    exact ⟨r, hr, d, hd, hmem, endsWithMark_of_mem_emitted hfallbacks hassets hmem⟩

/-- A mark at the end of a value, and one at the end of its first layer. -/
def layerMarked : List RuleSource :=
  [⟨".a", [("color", "red ! IMPORTANT "), ("background-image", "url(a.png) !important, url(b.png)")]⟩]

def layerMarkedText : Text := ".a \x7b\n    color: red;\n    background-image: url(a.png) !important;\n\x7d\n"

theorem convertRules_layerMarked :
    (bundled .empty).convertRules (Rule.ofSources layerMarked) = .ok ⟨layerMarkedText, [], [], []⟩ := by
  rw [bundled, Policy.bundled_eq]
  decide +kernel

theorem importance_iff_layerMarked :
    (bundled .empty).fallbacks = FallbackTable.bundled ∧ (bundled .empty).config.assets = [] ∧
    (∀ r ∈ Rule.ofSources layerMarked, ∃ s ∈ layerMarked, s.rule? = some r ∧
      List.Forall₂ Declaration.TakesMark (s.declarations.filter Declaration.isUsable) r.declarations) ∧
    (bundled .empty).convertRules (Rule.ofSources layerMarked) = .ok ⟨layerMarkedText, [], [], []⟩ ∧
      layerMarkedText = ((bundled .empty).blocks (Rule.ofSources layerMarked)).flatMap Block.text ∧
      ∀ b ∈ (bundled .empty).blocks (Rule.ofSources layerMarked), ∀ line ∈ b.lines,
        ∃ r ∈ Rule.ofSources layerMarked, ∃ d ∈ r.declarations, line ∈ (bundled .empty).emitted d ∧
          (EndsWithMark line.2 ↔ ∃ part ∈ (bundled .empty).carried? d line.1, EndsWithMark part) :=
  have h := importance_iff (c := bundled .empty) rfl rfl layerMarked
  ⟨rfl, rfl, h.1, convertRules_layerMarked, h.2 _ convertRules_layerMarked⟩

def twiceMarked : List RuleSource := [⟨".a", [("color", "red !important !important")]⟩]

/-- One of two marks is left in the text of the declaration, and is written. -/
theorem not_unmarked_twiceMarked :
    (bundled .empty).convertRules (Rule.ofSources twiceMarked) =
        .ok ⟨".a \x7b\n    color: red !important;\n\x7d\n", [], [], []⟩ ∧
      (¬∀ r ∈ Rule.ofSources twiceMarked, ∀ d ∈ r.declarations, ¬EndsWithMark d.text) ∧
      ¬∀ b ∈ (bundled .empty).blocks (Rule.ofSources twiceMarked), ∀ line ∈ b.lines, ¬EndsWithMark line.2 := by
  rw [bundled, Policy.bundled_eq]
  decide +kernel

end Converter

end UiToolkit
