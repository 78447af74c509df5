import UiToolkit.Proofs.Balance
import UiToolkit.Proofs.BlockSafety
import UiToolkit.Proofs.Reemission
import UiToolkit.Proofs.TranslatedValues

/-!
# Balanced values

Translation keeps a value balanced that is taken whole, and the first layer of a value, which ends where nothing is open. Balance is lost where a value is cut at blanks: the radius of a corner is the first word of its value, and the sides of an inset are the words of its value, whatever brackets and quotes the blanks stand in.
-/

namespace UiToolkit

open Attempt Text

namespace Value

variable {config : Config} {property value text : Text}

theorem isBalanced_finish {part : Text} (h : finish property part = .ok text) (hpart : isBalanced part = true) :
    isBalanced text = true := by
  obtain ⟨px, hpx, h⟩ := bind_eq_ok.mp h
  rw [(Pixels.respelled_convertEms hpx).isBalanced_eq] at hpart
  split at h
  · rcases doublePixels_cases h with rfl | ⟨n, rfl⟩
    · exact hpart
    · exact isBalanced_of_isInline fun c hc => Pixels.isInline_ofPixels hc
  · rwa [← return_eq_ok.mp h]

theorem fontPath_of_assets_eq_nil (hassets : config.assets = []) (name : Text) : config.fontPath name = [] := by
  rw [Config.fontPath, Config.assetPath?, Config.isAssetPath, hassets]
  rfl

/-- Translation keeps a value balanced that is not cut at blanks. -/
theorem isBalanced_translate (hassets : config.assets = []) (h : translate (some config) property value = .ok text)
    (hcorner : isCornerRadius (lower property) = false) (hbalanced : isBalanced value = true) : isBalanced text = true := by
  cases hvalue : isBlankText value with
  | true =>
    rw [translate_blank hvalue] at h
    rwa [← Except.ok.inj h]
  | false =>
    have hnormal : isBalanced (normalize value) = true := by rwa [isBalanced_normalize]
    have hlayer : isBalanced (trim (firstTopLevel ',' (normalize value))) = true :=
      isBalanced_trim (isBalanced_firstTopLevel ',' hnormal)
    by_cases hfont : lower property = "-unity-font".toList
    · rw [translate_font hvalue hfont, Option.map_some, Option.getD_some, fontPath_of_assets_eq_nil hassets] at h
      cases h
      rfl
    by_cases hdefinition : lower property = "-unity-font-definition".toList
    · rw [translate_definition hvalue hdefinition] at h
      cases h
      exact hlayer
    rw [translate_eq hvalue hfont hdefinition] at h
    split at h
    · cases h
      decide
    · refine isBalanced_finish h ?_
      rw [partFor, hcorner, if_neg Bool.false_ne_true]
      split
      · exact hlayer
      · exact hnormal

theorem isBlankText_firstWord {s : Text} (h : isBlankText s = true) : isBlankText (firstWord s) = true := by
  rw [firstWord]
  cases hwords : words s with
  | nil => exact h
  | cons word rest =>
    have hword : word ∈ cut isBlank s := (List.mem_filter.mp (hwords ▸ List.mem_cons_self : word ∈ words s)).1
    exact List.all_eq_true.mpr fun c hc => List.all_eq_true.mp h c ((infix_of_mem_cut hword).mem hc)

/-- The radius of a corner is as balanced as the first word of its value. -/
theorem isBalanced_translate_cornerRadius (h : translate (some config) property value = .ok text)
    (hcorner : isCornerRadius (lower property) = true) : isBalanced text = isBalanced (firstWord value) := by
  cases hvalue : isBlankText value with
  | true =>
    rw [translate_blank hvalue] at h
    rw [← Except.ok.inj h, isBalanced_of_isBlankText hvalue, isBalanced_of_isBlankText (isBlankText_firstWord hvalue)]
  | false =>
    have hother : ∀ name : Text, isCornerRadius name = false → lower property ≠ name := by
      rintro name hname heq
      rw [heq, hname] at hcorner
      cases hcorner
    have hgradient : gradientFree.contains (lower property) = false := by
      rw [← Bool.not_eq_true, List.contains_iff_mem]
      exact fun hmem => hother _ ((by decide : ∀ name ∈ gradientFree, isCornerRadius name = false) _ hmem) rfl
    rw [translate_eq hvalue (hother _ (by decide)) (hother _ (by decide)), hgradient, Bool.false_and,
      if_neg Bool.false_ne_true, partFor, hcorner, if_pos rfl, singleValued_of_isCornerRadius hcorner,
      if_neg Bool.false_ne_true, finish, beq_false_of_ne (hother _ (by decide))] at h
    obtain ⟨px, hpx, h⟩ := bind_eq_ok.mp h
    rw [← return_eq_ok.mp h, ← (Pixels.respelled_convertEms hpx).isBalanced_eq, isBalanced_firstWord_normalize hvalue]

theorem isBalanced_translate_side (h : translate (some config) property value = .ok text)
    (hside : lower property ∈ sides) : isBalanced text = isBalanced value := by
  cases hvalue : isBlankText value with
  | true =>
    rw [translate_blank hvalue] at h
    rw [Except.ok.inj h]
  | false =>
    have hsides : ∀ name ∈ sides, name ≠ "letter-spacing".toList ∧ name ≠ "background-color".toList ∧
        name ∉ singleValued ∧ isCornerRadius name = false := by decide
    obtain ⟨hspacing, hcolor, hsingle, hcorner⟩ := hsides _ hside
    rw [translate_whole hspacing hcolor hsingle hcorner hvalue] at h
    rw [← (Pixels.respelled_convertEms h).isBalanced_eq, isBalanced_normalize]

end Value

/-! ### Substitutes -/

theorem Pixels.mem_ofTerm? {term px : Text} (h : ofTerm? term = .ok (some px)) {c : Char} (hc : c ∈ px) :
    Numeral.isNumeralChar c = true ∨ c ∈ "px".toList := by
  unfold ofTerm? at h
  split at h
  · cases h
  · rename_i numeral unit hsplit
    obtain ⟨n, hn, heq⟩ := Option.map_eq_some_iff.mp hsplit
    cases heq
    extract_lets unit' at h
    split at h
    · obtain ⟨text, htext, heq⟩ := map_apply_eq_ok.mp h
      cases heq
      obtain ⟨i, -, heq⟩ := bind_eq_ok.mp htext
      rw [← return_eq_ok.mp heq] at hc
      refine (List.mem_append.mp hc).imp_left fun hc => ?_
      rcases mem_ofInt hc with hdigit | rfl
      · simp [Numeral.isNumeralChar, isDecimal_of_isDigit hdigit]
      · rfl
    · split at h
      · cases h
        exact (List.mem_append.mp hc).imp_left (Numeral.isNumeralChar_of_mem_take hn)
      · cases h

theorem Pixels.isBalanced_ofTerm? {term px : Text} (h : ofTerm? term = .ok (some px)) : isBalanced px = true := by
  refine isBalanced_of_isInline fun c hc => ?_
  rcases mem_ofTerm? h hc with hnumeral | hunit
  · exact isInline_of (by decide) (by decide) hnumeral
  · exact (by decide : ∀ d ∈ "px".toList, isInline d = true) c hunit

namespace Transformation

/-- What holds of every term in pixels holds of the lengths at the beginning. -/
theorem forall_leadingLengths {p : Text → Prop} (hp : ∀ {term px : Text}, Pixels.ofTerm? term = .ok (some px) → p px)
    {room : Nat} {terms offsets : List Text} (h : leadingLengths room terms = .ok offsets) : ∀ px ∈ offsets, p px := by
  induction terms generalizing room offsets with
  | nil =>
    cases h
    exact List.forall_mem_nil _
  | cons term terms ih =>
    rw [leadingLengths] at h
    obtain ⟨px, hpx, h⟩ := bind_eq_ok.mp h
    split at h
    · obtain ⟨rest, hrest, heq⟩ := bind_eq_ok.mp h
      rw [← return_eq_ok.mp heq]
      exact List.forall_mem_cons.mpr ⟨hp hpx, ih hrest⟩
    · rw [← return_eq_ok.mp h]
      exact List.forall_mem_nil _

/-- A shadow consists of lengths in pixels and its color. -/
theorem exists_of_shadowText {value text : Text} (h : shadowText value = .ok (some text)) :
    ∃ offsets room terms, leadingLengths room terms = .ok offsets ∧ text = joinWith [' '] (offsets ++ [shadowColor]) := by
  obtain ⟨offsets, hoffsets, heq⟩ := bind_eq_ok.mp h
  have heq := return_eq_ok.mp heq
  split at heq
  · cases heq
  · exact ⟨offsets, _, _, hoffsets, (Option.some.inj heq).symm⟩

theorem isBalanced_shadowText {value text : Text} (h : shadowText value = .ok (some text)) : isBalanced text = true := by
  obtain ⟨offsets, room, terms, hoffsets, rfl⟩ := exists_of_shadowText h
  have hbalanced : ∀ px ∈ offsets, isBalanced px = true := forall_leadingLengths Pixels.isBalanced_ofTerm? hoffsets
  refine isBalanced_joinWith (by decide) (List.forall_mem_append.mpr ⟨hbalanced, ?_⟩)
  exact List.forall_mem_singleton.mpr (by decide)

end Transformation

namespace Filling

/-- The filling is the value itself, a shadow, or balanced text without reference to the value. -/
def keepsBalance : Filling → Bool
  | .template text => text == "$value".toList || (isBalanced text && !text.contains '$')
  | .keywords table => table.all fun (_, text) => isBalanced text
  | .transformation t => t == .shadow
  | .nothing => true

theorem isBalanced_fill? {f : Filling} {value text : Text} (hkeeps : f.keepsBalance = true)
    (hfill : f.fill? value = .ok (some text)) (hvalue : isBalanced value = true) : isBalanced text = true := by
  cases f with
  | template template =>
    cases hfill
    rcases Bool.or_eq_true_iff.mp hkeeps with hwhole | hconstant
    · rw [beq_iff_eq.mp hwhole, replaceAll_self, hvalue]
    · obtain ⟨hbalanced, hdollar⟩ := Bool.and_eq_true_iff.mp hconstant
      rwa [replaceAll_of_not_mem (by simpa using hdollar)]
  | keywords table =>
    have hlookup := Except.ok.inj hfill
    obtain ⟨before, after, hsplit, -⟩ := List.lookup_eq_some_iff.mp hlookup
    exact List.all_eq_true.mp hkeeps (lower (trim value), text) (by simp [hsplit])
  | transformation t =>
    rw [beq_iff_eq.mp hkeeps] at hfill
    exact Transformation.isBalanced_shadowText hfill
  | nothing => cases hfill

end Filling

namespace FallbackTable

/-- Only the sides of an inset are cut from a value at blanks. -/
theorem keepsBalance_bundled : ∀ entry ∈ bundled, entry.1 ≠ "inset".toList → ∀ rule ∈ entry.2, ∀ s ∈ rule.substitutes,
    s.filling.keepsBalance = true ∧ Value.isCornerRadius (lower s.property) = false := by
  decide

end FallbackTable

/-! ### The sides of an inset -/

namespace Transformation

theorem edge?_cases (side : Side) (parts : List Text) :
    edge? side parts = none ∨ (parts.length ≤ 4 ∧ ∃ part ∈ parts, edge? side parts = some part) := by
  unfold edge?
  split <;> cases side <;> simp

theorem exists_edge?_eq {parts : List Text} (hlength : parts.length ≤ 4) {part : Text} (hpart : part ∈ parts) :
    ∃ side, edge? side parts = some part := by
  match parts with
  | [] => cases hpart
  | [all] =>
    obtain rfl := List.mem_singleton.mp hpart
    exact ⟨.top, rfl⟩
  | [vertical, horizontal] =>
    simp only [List.mem_cons, List.not_mem_nil, or_false] at hpart
    rcases hpart with rfl | rfl
    · exact ⟨.top, rfl⟩
    · exact ⟨.right, rfl⟩
  | [top, horizontal, bottom] =>
    simp only [List.mem_cons, List.not_mem_nil, or_false] at hpart
    rcases hpart with rfl | rfl | rfl
    · exact ⟨.top, rfl⟩
    · exact ⟨.right, rfl⟩
    · exact ⟨.bottom, rfl⟩
  | [top, right, bottom, left] =>
    simp only [List.mem_cons, List.not_mem_nil, or_false] at hpart
    rcases hpart with rfl | rfl | rfl | rfl
    · exact ⟨.top, rfl⟩
    · exact ⟨.right, rfl⟩
    · exact ⟨.bottom, rfl⟩
    · exact ⟨.left, rfl⟩
  | _ :: _ :: _ :: _ :: _ :: _ =>
    simp only [List.length_cons] at hlength
    omega

end Transformation

namespace FallbackTable

def sideNames : List (Side × Text) := [(.top, "top"), (.right, "right"), (.bottom, "bottom"), (.left, "left")]

theorem exists_mem_sideNames (side : Side) : ∃ name, (side, name) ∈ sideNames := by
  cases side <;> simp [sideNames]

theorem sideNames_native : ∀ entry ∈ sideNames, lower entry.2 ∈ Value.sides ∧ Policy.bundled.isNative entry.2 = true := by
  simp only [Policy.isNative_bundled]
  decide

theorem synthesize_inset (value : Text) :
    bundled.synthesize "inset" value =
      .ok ((sideNames.map fun entry =>
        (entry.2, trim ((Transformation.edge? entry.1 (words value)).getD []))).filter fun (_, text) => !text.isEmpty) := by
  rfl

/-- Each of up to four words of an inset goes to a side of the box. -/
theorem exists_mem_synthesize_inset {value word : Text} {synthesized : List (Text × Text)}
    (h : bundled.synthesize "inset" value = .ok synthesized) (hlength : (words value).length ≤ 4)
    (hword : word ∈ words value) : ∃ entry ∈ sideNames, (entry.2, word) ∈ synthesized := by
  obtain rfl := Except.ok.inj ((synthesize_inset value).symm.trans h)
  obtain ⟨side, hside⟩ := Transformation.exists_edge?_eq hlength hword
  obtain ⟨name, hname⟩ := exists_mem_sideNames side
  refine ⟨_, hname, List.mem_filter.mpr ⟨List.mem_map.mpr ⟨_, hname, ?_⟩, (List.mem_filter.mp hword).2⟩⟩
  rw [hside, Option.getD_some, trim_of_mem_words hword]

/-- What the table gives for an inset are sides with the words that they are given. -/
theorem mem_synthesize_inset {value target source : Text} {synthesized : List (Text × Text)}
    (h : bundled.synthesize "inset" value = .ok synthesized) (hmem : (target, source) ∈ synthesized) :
    ∃ side, (side, target) ∈ sideNames ∧ Transformation.edge? side (words value) = some source := by
  obtain rfl := Except.ok.inj ((synthesize_inset value).symm.trans h)
  obtain ⟨hmem, hne⟩ := List.mem_filter.mp hmem
  obtain ⟨⟨side, name⟩, hname, heq⟩ := List.mem_map.mp hmem
  cases heq
  refine ⟨side, hname, ?_⟩
  rcases Transformation.edge?_cases side (words value) with hnone | ⟨-, part, hpart, hsome⟩
  · rw [hnone] at hne
    cases hne
  · rw [hsome, Option.getD_some, trim_of_mem_words hpart]

theorem word_of_mem_synthesize_inset {value target source : Text} {synthesized : List (Text × Text)}
    (h : bundled.synthesize "inset" value = .ok synthesized) (hmem : (target, source) ∈ synthesized) :
    lower target ∈ Value.sides ∧ (words value).length ≤ 4 ∧ source ∈ words value := by
  obtain ⟨side, hname, hside⟩ := mem_synthesize_inset h hmem
  refine ⟨(sideNames_native _ hname).1, ?_⟩
  rcases Transformation.edge?_cases side (words value) with hnone | ⟨hlength, part, hpart, hsome⟩
  · cases hnone.symm.trans hside
  · cases hsome.symm.trans hside
    exact ⟨hlength, hpart⟩

end FallbackTable

/-! ### Declarations -/

/-- The words of a value that are taken one by one, whether or not they are balanced. -/
def cutWords (property value : Text) : List Text :=
  if Value.isCornerRadius property && Policy.bundled.isNative property then [Value.firstWord value]
  else if property == "inset".toList && (words value).length ≤ 4 then words value
  else []

namespace Converter

variable {config : Config} {d : Declaration}

theorem exists_of_mem_synthesize {c : Converter} {property value target source : Text} {pairs synthesized : List (Text × Text)}
    (h : c.substitutes property value = .ok pairs) (hsynthesized : c.fallbacks.synthesize property value = .ok synthesized)
    (hsource : (target, source) ∈ synthesized) (hadmits : c.admits property target = true) :
    ∃ text, c.translate target source = .ok text ∧ (isBlankText text = true ∨ (target, text) ∈ pairs) := by
  simp only [substitutes, bind_eq_ok, return_eq_ok] at h
  obtain ⟨synthesized', hsynthesized', translated, htranslated, rfl⟩ := h
  obtain rfl := Except.ok.inj (hsynthesized.symm.trans hsynthesized')
  obtain ⟨pair, hpair, htext⟩ := exists_of_mem_of_mapM htranslated (List.mem_filter.mpr ⟨hsource, hadmits⟩)
  obtain ⟨text, htranslate, heq⟩ := bind_eq_ok.mp htext
  cases return_eq_ok.mp heq
  refine ⟨text, htranslate, ?_⟩
  cases hblank : isBlankText text with
  | true => exact .inl rfl
  | false => exact .inr (List.mem_filter.mpr ⟨hpair, by rw [hblank]; rfl⟩)

theorem balanced_substitutes_inset {value : Text} {pairs : List (Text × Text)}
    (h : (bundled config).substitutes "inset" value = .ok pairs) :
    (∀ line ∈ pairs, isBalanced line.2 = true) ↔
      ((words value).length ≤ 4 → ∀ word ∈ words value, isBalanced word = true) := by
  constructor
  · intro hlines hlength word hword
    obtain ⟨entry, hentry, hsource⟩ := FallbackTable.exists_mem_synthesize_inset (FallbackTable.synthesize_inset value) hlength hword
    obtain ⟨hside, hnative⟩ := FallbackTable.sideNames_native entry hentry
    obtain ⟨text, htranslate, hwritten⟩ := exists_of_mem_synthesize h (FallbackTable.synthesize_inset value) hsource
      (Bool.or_eq_true_iff.mpr (.inr hnative))
    rw [← Value.isBalanced_translate_side htranslate hside]
    exact hwritten.elim isBalanced_of_isBlankText (hlines _)
  · rintro hwords ⟨target, text⟩ hline
    obtain ⟨synthesized, source, hsynthesized, hsource, -, htranslate, -⟩ := mem_substitutes h hline
    obtain ⟨hside, hlength, hword⟩ := FallbackTable.word_of_mem_synthesize_inset hsynthesized hsource
    rw [Value.isBalanced_translate_side htranslate hside]
    exact hwords hlength source hword

theorem balanced_substitutes (hassets : config.assets = []) {property value : Text} {pairs : List (Text × Text)}
    (h : (bundled config).substitutes property value = .ok pairs) (hproperty : lower property ≠ "inset".toList)
    (hvalue : isBalanced value = true) : ∀ line ∈ pairs, isBalanced line.2 = true := by
  rintro ⟨target, text⟩ hline
  obtain ⟨synthesized, source, hsynthesized, hsource, -, htranslate, -⟩ := mem_substitutes h hline
  obtain ⟨rules, hentry, rule, hrule, s, hs, rfl, filled, hfilled, rfl⟩ :=
    FallbackTable.mem_synthesize hsynthesized hsource
  obtain ⟨hkeeps, hcorner⟩ := FallbackTable.keepsBalance_bundled _ hentry hproperty rule hrule s hs
  refine Value.isBalanced_translate hassets htranslate hcorner (isBalanced_trim ?_)
  cases filled with
  | none => rfl
  | some text => exact Filling.isBalanced_fill? hkeeps hfilled hvalue

theorem balanced_nativePairs {property translated : Text} :
    (∀ line ∈ nativePairs property translated, isBalanced line.2 = true) ↔ isBalanced translated = true := by
  constructor
  · intro hlines
    cases hblank : isBlankText translated with
    | true => exact isBalanced_of_isBlankText hblank
    | false => exact hlines (property, translated) (mem_nativePairs.mpr ⟨rfl, hblank, .inl rfl⟩)
  · rintro htranslated ⟨name, value⟩ hline
    obtain ⟨rfl, -⟩ := mem_nativePairs.mp hline
    exact htranslated

theorem isKnown_inset : Policy.bundled.isKnown "inset" = true ∧ Policy.bundled.isNative "inset" = false := by
  rw [Policy.isKnown_bundled, Policy.isNative_bundled]
  decide

theorem cutWords_of_not_native {property : Text} (hother : Policy.bundled.isNative property = false) (value : Text) :
    cutWords property value = if property = "inset".toList ∧ (words value).length ≤ 4 then words value else [] := by
  rw [cutWords, hother, Bool.and_false, if_neg Bool.false_ne_true]
  simp

theorem isBalanced_translate_iff (hassets : config.assets = [])
    (hnative : Policy.bundled.isNative (renamed d.property) = true) (hvalue : isBalanced d.text = true) {translated : Text}
    (htranslate : (bundled config).translate (renamed d.property) d.text = .ok translated) :
    isBalanced translated = true ↔ ∀ word ∈ cutWords (renamed d.property) d.text, isBalanced word = true := by
  have hlower : lower (renamed d.property) = renamed d.property := (Policy.isNativeName_renamed hnative).1
  have hinset : (renamed d.property == "inset".toList) = false := by
    refine beq_false_of_ne fun heq => ?_
    rw [heq, isKnown_inset.2] at hnative
    cases hnative
  rw [cutWords, hnative, Bool.and_true, hinset]
  cases hcorner : Value.isCornerRadius (renamed d.property) with
  | true =>
    rw [Value.isBalanced_translate_cornerRadius htranslate (hlower.symm ▸ hcorner), if_pos rfl,
      List.forall_mem_singleton]
  | false =>
    have htranslated := Value.isBalanced_translate hassets htranslate (hlower.symm ▸ hcorner) hvalue
    exact iff_of_true htranslated (List.forall_mem_nil _)

theorem balanced_substitutes_iff (hassets : config.assets = [])
    (hother : Policy.bundled.isNative (renamed d.property) = false) (hvalue : isBalanced d.text = true)
    {pairs : List (Text × Text)} (hpairs : (bundled config).substitutes (renamed d.property) d.text = .ok pairs) :
    (∀ line ∈ pairs, isBalanced line.2 = true) ↔
      ∀ word ∈ cutWords (renamed d.property) d.text, isBalanced word = true := by
  rw [cutWords_of_not_native hother]
  by_cases hinset : renamed d.property = "inset".toList
  · rw [hinset] at hpairs
    rw [balanced_substitutes_inset hpairs]
    by_cases hlength : (words d.text).length ≤ 4
    · rw [if_pos ⟨hinset, hlength⟩]
      exact ⟨fun h => h hlength, fun h _ => h⟩
    · rw [if_neg fun h => hlength h.2]
      exact iff_of_true (fun h => absurd h hlength) (List.forall_mem_nil _)
  · have hlower : lower (renamed d.property) ≠ "inset".toList := fun heq => hinset (renamed_eq_of_lower (by decide) heq)
    rw [if_neg fun h => hinset h.1]
    exact iff_of_true (balanced_substitutes hassets hpairs hlower hvalue) (List.forall_mem_nil _)

/--
Without assets, a balanced value comes to balanced values only, just when the words that are cut from it are balanced.
-/
theorem balanced_iff_cutWords (hassets : config.assets = []) (hcustom : d.isCustom = false)
    (hvalue : isBalanced d.text = true) {h : Handling} (hhandle : (bundled config).handle d = .ok h) :
    (∀ line ∈ h.pairs, isBalanced line.2 = true) ↔
      ∀ word ∈ cutWords (renamed d.property) d.text, isBalanced word = true := by
  cases hnative : Policy.bundled.isNative (renamed d.property) with
  | true =>
    rw [handle_native _ hcustom hnative, map_eq_ok] at hhandle
    obtain ⟨translated, htranslate, rfl⟩ := hhandle
    rw [Handling.pairs, balanced_nativePairs]
    exact isBalanced_translate_iff hassets hnative hvalue htranslate
  | false =>
    cases hknown : Policy.bundled.isKnown (renamed d.property) with
    | false =>
      rw [handle_unknown _ hcustom hknown] at hhandle
      cases hhandle
      have hinset : renamed d.property ≠ "inset".toList := by
        intro heq
        rw [heq, isKnown_inset.1] at hknown
        cases hknown
      rw [cutWords_of_not_native hnative, if_neg fun h => hinset h.1]
      exact iff_of_true (List.forall_mem_nil _) (List.forall_mem_nil _)
    | true =>
      rw [handle_other _ hcustom hknown hnative, map_eq_ok] at hhandle
      obtain ⟨pairs, hpairs, rfl⟩ := hhandle
      rw [pairs_substituted]
      exact balanced_substitutes_iff hassets hnative hvalue hpairs

/-- A corner whose radius is a sum. -/
def roundCorner : Declaration := ⟨"border-radius", Fragment.ofText? "calc(1px + 2px)", false⟩

theorem handle_roundCorner : (bundled .empty).handle roundCorner = .ok (.emitted [("border-radius", "calc(1px")]) := by
  rw [bundled, Policy.bundled_eq]
  decide +kernel

theorem balanced_iff_cutWords_roundCorner :
    Config.empty.assets = [] ∧ roundCorner.isCustom = false ∧ isBalanced roundCorner.text = true ∧
      (bundled .empty).handle roundCorner = .ok (.emitted [("border-radius", "calc(1px")]) ∧
      ((∀ line ∈ (Handling.emitted [("border-radius", "calc(1px")]).pairs, isBalanced line.2 = true) ↔
        ∀ word ∈ cutWords (renamed roundCorner.property) roundCorner.text, isBalanced word = true) :=
  ⟨rfl, rfl, by decide, handle_roundCorner, balanced_iff_cutWords rfl rfl (by decide) handle_roundCorner⟩

/-- The bracket of the sum is left open. -/
theorem not_balanced_roundCorner :
    ¬∀ (config : Config) (d : Declaration) (h : Handling), config.assets = [] → d.isCustom = false →
      isBalanced d.text = true → (bundled config).handle d = .ok h → ∀ line ∈ h.pairs, isBalanced line.2 = true := by
  intro hall
  have hcorner := hall .empty roundCorner _ rfl rfl (by decide) handle_roundCorner
  revert hcorner
  decide

end Converter

end UiToolkit
