import UiToolkit.Proofs.Fates
import UiToolkit.Proofs.Overflow

/-!
# What assets can change

The assets of a configuration are looked up for fonts alone. Two conversions of the same rules under different configurations report the same unsupported names, and whichever of their lines are not of a font are the same and in the same order: a line that comes in or goes away for a font moves no other line, as a table keeps every name at its first place.
-/

namespace UiToolkit

open Attempt Text

/-- The name is one of those that a font is written under, in any letter case. -/
def isFontName (name : Text) : Bool :=
  lower name == "-unity-font".toList || lower name == "-unity-font-definition".toList

/-- The lines that are not of a font. -/
def withoutFonts (lines : List (Text × Text)) : List (Text × Text) := lines.filter fun line => !isFontName line.1

theorem withoutFonts_flatMap {α : Type} (f : α → List (Text × Text)) (as : List α) :
    withoutFonts (as.flatMap f) = as.flatMap fun a => withoutFonts (f a) := by
  rw [withoutFonts, List.filter_flatMap]
  rfl

theorem withoutFonts_ofList (lines : List (Text × Text)) :
    withoutFonts (Entries.ofList lines) = Entries.ofList (withoutFonts lines) :=
  Entries.filter_ofList (fun name => !isFontName name) lines

/-- A declaration of a font has no other lines than those of the font. -/
theorem withoutFonts_nativePairs {property : Text} (hfont : isFontName property = true) (translated : Text) :
    withoutFonts (Converter.nativePairs property translated) = [] := by
  have hsecond : isFontName "-unity-font-definition".toList = true := by decide
  rw [withoutFonts, List.filter_eq_nil_iff]
  rintro ⟨name, value⟩ hmem
  obtain ⟨-, -, rfl | ⟨-, rfl⟩⟩ := Converter.mem_nativePairs.mp hmem
  · rw [hfont]
    exact Bool.false_ne_true
  · rw [hsecond]
    exact Bool.false_ne_true

/-- The same name, and the same value unless the name is one of a font. -/
def SameButFont (line line' : Text × Text) : Prop := line'.1 = line.1 ∧ (isFontName line.1 = false → line' = line)

theorem withoutFonts_of_forall₂ {lines lines' : List (Text × Text)} (h : List.Forall₂ SameButFont lines lines')
    (visible : Text × Text → Bool) : withoutFonts (lines'.filter visible) = withoutFonts (lines.filter visible) := by
  rw [withoutFonts, withoutFonts, List.filter_filter, List.filter_filter]
  induction h with
  | nil => rfl
  | @cons line line' lines lines' hline _ ih =>
    obtain ⟨hname, hsame⟩ := hline
    rw [List.filter_cons, List.filter_cons, ih, hname]
    cases hfont : isFontName line.1 with
    | true => rfl
    | false => rw [hsame hfont]

namespace Value

theorem translate_of_not_font {config config' : Option Config} {property value : Text}
    (hfont : lower property ≠ "-unity-font".toList) : translate config' property value = translate config property value := by
  unfold translate
  simp only [beq_false_of_ne hfont, Bool.false_eq_true, if_false]

end Value

/-- The lines that are written, none for a dropped rule. -/
def Outcome.lines : Outcome → Entries Text
  | .kept _ lines => lines
  | .dropped _ => []

namespace Converter

/-- The converter with another configuration. -/
def configured (c : Converter) (config : Config) : Converter := { c with config := config }

variable {c : Converter} (config : Config)

/-! ### Declarations -/

theorem exists_translate {property value text : Text} (h : c.translate property value = .ok text) :
    ∃ text', (c.configured config).translate property value = .ok text' ∧
      SameButFont (property, text) (property, text') := by
  by_cases hfont : lower property = "-unity-font".toList
  · obtain ⟨text', htext'⟩ : Succeeds ((c.configured config).translate property value) :=
      Value.translate_succeeds_iff.mpr (Value.translate_succeeds_iff.mp (.of_eq_ok h))
    refine ⟨text', htext', rfl, fun hname => ?_⟩
    rw [isFontName, hfont] at hname
    cases hname
  · exact ⟨text, (Value.translate_of_not_font hfont).trans h, rfl, fun _ => rfl⟩

theorem exists_substitutes {property value : Text} {pairs : List (Text × Text)}
    (h : c.substitutes property value = .ok pairs) :
    ∃ pairs', (c.configured config).substitutes property value = .ok pairs' ∧ withoutFonts pairs' = withoutFonts pairs := by
  simp only [substitutes, bind_eq_ok, return_eq_ok] at h ⊢
  obtain ⟨synthesized, hsynthesized, translated, htranslated, rfl⟩ := h
  have hstep : ∀ (pair line : Text × Text), (do return (pair.1, ← c.translate pair.1 pair.2)) = Except.ok line →
      ∃ line', (do return (pair.1, ← (c.configured config).translate pair.1 pair.2)) = Except.ok line' ∧
        SameButFont line line' := by
    intro pair line hline
    obtain ⟨text, htext, heq⟩ := bind_eq_ok.mp hline
    obtain rfl := return_eq_ok.mp heq
    obtain ⟨text', htext', hsame⟩ := exists_translate config htext
    exact ⟨(pair.1, text'), bind_eq_ok.mpr ⟨text', htext', rfl⟩, hsame⟩
  obtain ⟨translated', htranslated', hsame⟩ := exists_mapM htranslated hstep
  exact ⟨_, ⟨synthesized, hsynthesized, translated', htranslated', rfl⟩, withoutFonts_of_forall₂ hsame _⟩

theorem exists_handle {d : Declaration} {h : Handling} (hhandle : c.handle d = .ok h) :
    ∃ h', (c.configured config).handle d = .ok h' ∧ withoutFonts h'.pairs = withoutFonts h.pairs := by
  cases hcustom : d.isCustom with
  | true =>
    rw [handle_custom _ hcustom] at hhandle ⊢
    exact ⟨h, hhandle, rfl⟩
  | false =>
    cases hknown : c.policy.isKnown (renamed d.property) with
    | false =>
      rw [handle_unknown c hcustom hknown] at hhandle
      rw [handle_unknown (c.configured config) hcustom hknown]
      exact ⟨h, hhandle, rfl⟩
    | true =>
      cases hnative : c.policy.isNative (renamed d.property) with
      | true =>
        rw [handle_native c hcustom hnative, map_eq_ok] at hhandle
        obtain ⟨text, htext, rfl⟩ := hhandle
        obtain ⟨text', htext', -, hsame⟩ := exists_translate config htext
        rw [handle_native (c.configured config) hcustom hnative, htext']
        refine ⟨_, rfl, ?_⟩
        cases hfont : isFontName (renamed d.property) with
        | true => exact (withoutFonts_nativePairs hfont text').trans (withoutFonts_nativePairs hfont text).symm
        | false => rw [(Prod.mk.inj (hsame hfont)).2]
      | false =>
        rw [handle_other c hcustom hknown hnative, map_eq_ok] at hhandle
        obtain ⟨pairs, hpairs, rfl⟩ := hhandle
        obtain ⟨pairs', hpairs', hsame⟩ := exists_substitutes config hpairs
        rw [handle_other (c.configured config) hcustom hknown hnative, hpairs']
        exact ⟨_, rfl, by rw [pairs_substituted, pairs_substituted, hsame]⟩

/-! ### Rules -/

theorem lines_outcome (header : List Text) (handlings : List Handling) :
    (outcome header handlings).lines = Entries.ofList (handlings.flatMap Handling.pairs) := by
  rw [outcome]
  split
  · rename_i hempty
    exact (List.isEmpty_iff.mp hempty).symm
  · rfl

/-- What becomes of a rule under another configuration is the same but for the lines of fonts. -/
theorem exists_verdict {r : Rule} {v : Verdict} (hv : c.verdict r = .ok v) :
    ∃ v', (c.configured config).verdict r = .ok v' ∧ withoutFonts v'.outcome.lines = withoutFonts v.outcome.lines := by
  have hheader : (c.configured config).header r.selectors = c.header r.selectors := rfl
  unfold verdict at hv ⊢
  rw [hheader]
  cases hselectors : c.header r.selectors with
  | error reason =>
    rw [hselectors] at hv
    exact ⟨v, hv, rfl⟩
  | ok header =>
    rw [hselectors] at hv
    obtain ⟨handlings, hhandlings, heq⟩ := bind_eq_ok.mp hv
    obtain rfl := return_eq_ok.mp heq
    obtain ⟨handlings', hhandlings', hsame⟩ := exists_mapM hhandlings fun d h => exists_handle config
    refine ⟨_, bind_eq_ok.mpr ⟨handlings', hhandlings', rfl⟩, ?_⟩
    rw [lines_outcome, lines_outcome, withoutFonts_ofList, withoutFonts_ofList, withoutFonts_flatMap, withoutFonts_flatMap]
    exact congrArg Entries.ofList (flatMap_of_forall₂ hsame fun h h' heq => heq.symm).symm

/-! ### Whole conversions -/

/-- Two conversions of the same rules whose lines are the same but for those of fonts. -/
structure AgreesOffFonts (c c' : Converter) (rules : List Rule) (conv conv' : Conversion) : Prop where
  text : conv.text = (c.blocks rules).flatMap Block.text ∧ conv'.text = (c'.blocks rules).flatMap Block.text
  header : ∀ r ∈ rules, c'.header r.selectors = c.header r.selectors
  lines : ∀ r ∈ rules, ∃ v v', c.verdict r = .ok v ∧ c'.verdict r = .ok v' ∧
    withoutFonts v'.outcome.lines = withoutFonts v.outcome.lines
  unsupported : conv'.report.unsupported = conv.report.unsupported

/-- With other assets a conversion still has a result, which is the same but for the lines of fonts. -/
theorem exists_agreesOffFonts (config : Config) {rules : List Rule} {conv : Conversion}
    (h : c.convertRules rules = .ok conv) :
    ∃ conv', (c.configured config).convertRules rules = .ok conv' ∧
      AgreesOffFonts c (c.configured config) rules conv conv' := by
  obtain ⟨verdicts, hverdicts, -⟩ := map_apply_eq_ok.mp h
  obtain ⟨verdicts', hverdicts', -⟩ := exists_mapM hverdicts fun r v => exists_verdict config
  have h' : (c.configured config).convertRules rules = .ok (conversionOf verdicts') :=
    map_apply_eq_ok.mpr ⟨verdicts', hverdicts', rfl⟩
  refine ⟨_, h', ⟨text_eq_blocks h, text_eq_blocks h'⟩, fun r hr => rfl, fun r hr => ?_, ?_⟩
  · obtain ⟨v, hv⟩ := succeeds_mapM.mp (.of_eq_ok hverdicts) r hr
    obtain ⟨v', hv', hsame⟩ := exists_verdict config hv
    exact ⟨v, v', hv, hv', hsame⟩
  · rw [(conversion_spec h).2.2.1, (conversion_spec h').2.2.1]
    rfl

/-! ### A font that is known or not -/

/-- A converter with one font, which the fallback for another property names in capitals. -/
def fontSample : Converter where
  policy := .ofTables
    [("color", ⟨true, false, none, none⟩), ("-unity-font", ⟨true, false, none, none⟩), ("font", ⟨false, false, none, none⟩)] []
  config := ⟨[("roboto", "Assets/Roboto.ttf")], false, none⟩
  fallbacks := [("font", [⟨.always, [⟨"-UNITY-FONT", .template "$value"⟩, ⟨"Color", .template "red"⟩]⟩])]

def fontRules : List Rule :=
  Rule.ofSources [⟨".a", [("font-family", "Roboto")]⟩,
    ⟨".b", [("font", "Roboto"), ("color", "blue"), ("float", "left")]⟩]

def fontConversion : Conversion where
  text :=
    ".a \x7b\n    -unity-font: Assets/Roboto.ttf;\n    -unity-font-definition: Assets/Roboto.ttf;\n\x7d\n" ++
      ".b \x7b\n    -UNITY-FONT: Assets/Roboto.ttf;\n    Color: red;\n    color: blue;\n\x7d\n"
  report := ⟨[], ["float"], []⟩

/-- Without the asset the rule that has only the font is dropped. -/
def fontlessConversion : Conversion where
  text := ".b \x7b\n    Color: red;\n    color: blue;\n\x7d\n"
  report := ⟨[(".a", "no supported declarations")], ["float"], []⟩

theorem convertRules_fontRules : fontSample.convertRules fontRules = .ok fontConversion := by
  decide +kernel

theorem exists_agreesOffFonts_fontRules :
    fontSample.convertRules fontRules = .ok fontConversion ∧
      (fontSample.configured .empty).convertRules fontRules = .ok fontlessConversion ∧
      AgreesOffFonts fontSample (fontSample.configured .empty) fontRules fontConversion fontlessConversion := by
  obtain ⟨conv', hconv', hagrees⟩ := exists_agreesOffFonts .empty convertRules_fontRules
  obtain rfl : conv' = fontlessConversion := Except.ok.inj (hconv'.symm.trans (by decide +kernel))
  exact ⟨convertRules_fontRules, hconv', hagrees⟩

end Converter

end UiToolkit
