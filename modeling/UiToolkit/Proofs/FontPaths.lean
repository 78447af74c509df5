import Mathlib.Data.List.Infix
import UiToolkit.Proofs.Retranslation
import UiToolkit.Proofs.Terms

/-!
# Resolved fonts

A font is resolved to a path, and the path stands for itself when a value is translated again. It goes through the passes and the cut of the first layer before it is looked up, and is looked up as the name of an asset first. So it is found again just when it is the name of an asset with this path, or the name of none and plain: without the terms of the passes, in one layer, and with neither blanks nor quotes at its ends.

The passes never put a blank or a quote in front of a path. Where the text after a pass departs from the one before, it has a character that the pass has written.
-/

namespace UiToolkit

open Attempt Text Piece

/-! ### Where a pass departs from the text -/

/-- The first characters of what the passes for leading points and viewport units write. -/
def written : Text := "0%"

/-- The texts agree up to a character that is written in the later one only. -/
inductive Departs : Text → Text → Prop where
  | here {d c : Char} (s t : Text) (hd : d ∉ written) (hc : c ∈ written) : Departs (d :: s) (c :: t)
  | later (c : Char) {s t : Text} (h : Departs s t) : Departs (c :: s) (c :: t)

namespace Departs

variable {s t u : Text}

theorem append_left (run : Text) (h : Departs s t) : Departs (run ++ s) (run ++ t) := by
  induction run with
  | nil => exact h
  | cons c run ih => exact .later c ih

theorem trans (h : Departs s t) (h' : Departs t u) : Departs s u := by
  induction h generalizing u with
  | here s t hd hc =>
    cases h' with
    | here _ _ hc' _ => exact absurd hc hc'
    | later c h' => exact .here _ _ hd hc
  | later c h ih =>
    cases h' with
    | here _ _ hc hd => exact .here _ _ hc hd
    | later _ h' => exact .later c (ih h')

/-- A text that departs from its own beginning has a written character in front of it. -/
theorem exists_mem_front (h : Departs s t) {front rest : Text} (ht : t = front ++ (s ++ rest)) : ∃ c ∈ front, c ∈ written := by
  induction h generalizing front rest with
  | here s t hd hc =>
    cases front with
    | nil =>
      obtain ⟨rfl, -⟩ := List.cons.inj ht
      exact absurd hc hd
    | cons e front =>
      obtain ⟨rfl, -⟩ := List.cons.inj ht
      exact ⟨_, List.mem_cons_self, hc⟩
  | @later c s t h ih =>
    cases front with
    | nil => exact ih (List.cons.inj ht).2
    | cons e front =>
      -- the common first character goes to the end of the front
      obtain ⟨rfl, hrest⟩ := List.cons.inj ht
      have hfront : ∃ d ∈ front ++ [c], d ∈ written := ih (by rw [hrest, List.append_assoc]; rfl)
      obtain ⟨d, hd, hwritten⟩ := hfront
      refine ⟨d, ?_, hwritten⟩
      rw [List.mem_append, List.mem_singleton] at hd
      exact List.mem_cons.mpr hd.symm

end Departs

theorem Piece.rewrite_eq_or_departs {α : Type} {read : Reader α} {write : α → Text}
    (hwrite : ∀ b c cs n meaning, read b c cs = some (n, meaning) → c ∉ written ∧ ∃ e ∈ (write meaning).head?, e ∈ written)
    (before : Option Char) (s : Text) :
    rewrite write (ofText read before s) = s ∨ Departs s (rewrite write (ofText read before s)) := by
  induction before, s using ofText.induct read with
  | case1 before =>
    rw [ofText_nil]
    exact .inl rfl
  | case2 before c cs n hextent ih =>
    rw [ofText_guarded hextent, rewrite_guarded]
    have hsplit : c :: cs = (c :: cs.take n) ++ cs.drop n := by rw [List.cons_append, List.take_append_drop]
    refine ih.imp (fun h => ?_) fun h => ?_
    · rw [h, ← hsplit]
    · have hlater := h.append_left (c :: cs.take n)
      rwa [← hsplit] at hlater
  | case3 before c cs hextent n meaning hread ih =>
    simp only [ofText_term hextent hread, rewrite_term]
    obtain ⟨hc, e, he, hmem⟩ := hwrite before c cs n meaning hread
    obtain ⟨es, hes⟩ := List.head?_eq_some_iff.mp he
    rw [hes]
    exact .inr (.here _ _ hc hmem)
  | case4 before c cs hextent hread ih =>
    simp only [ofText_plain hextent hread, rewrite_plain]
    exact ih.imp (congrArg (c :: ·)) (.later c)

namespace Value

theorem fillLeadingPoints_eq_or_departs (s : Text) : fillLeadingPoints s = s ∨ Departs s (fillLeadingPoints s) := by
  refine rewrite_eq_or_departs (fun b c cs n meaning hread => ?_) none s
  obtain ⟨-, rfl, -, -⟩ := readLeadingPoint_eq_some hread
  exact ⟨by decide, '0', rfl, by decide⟩

theorem viewportToPercent_eq_or_departs (s : Text) : viewportToPercent s = s ∨ Departs s (viewportToPercent s) := by
  refine rewrite_eq_or_departs (fun b c cs n meaning hread => ?_) none s
  obtain ⟨-, -, hc, -⟩ := readViewport_eq_some hread
  refine ⟨?_, '%', rfl, by decide⟩
  intro hmem
  have hnone : ∀ d ∈ written, d.toLower ≠ 'v' := by decide
  exact hnone c hmem hc

theorem normalize_eq_or_departs (s : Text) : normalize s = s ∨ Departs s (normalize s) := by
  rcases viewportToPercent_eq_or_departs (fillLeadingPoints s) with hsame | hdeparts
  · rw [normalize, hsame]
    exact fillLeadingPoints_eq_or_departs s
  · rcases fillLeadingPoints_eq_or_departs s with hfill | hfill
    · rw [hfill] at hdeparts
      rw [normalize, hfill]
      exact .inr hdeparts
    · exact .inr (hfill.trans hdeparts)

/-- The passes leave a text alone if they only put something around it that is not theirs. -/
theorem normalize_eq_self_of_front {s front rest : Text} (hfront : ∀ c ∈ front, c ∉ written)
    (h : normalize s = front ++ (s ++ rest)) : normalize s = s := by
  refine (normalize_eq_or_departs s).resolve_right fun hdeparts => ?_
  obtain ⟨c, hc, hwritten⟩ := hdeparts.exists_mem_front h
  exact hfront c hc hwritten

/-! ### Paths that stand for themselves -/

/-- What a font is looked up as. -/
def fontName (value : Text) : Text := trim (firstTopLevel ',' (normalize value))

/-- A path that comes through to the lookup as it is. -/
structure IsPlain (path : Text) : Prop where
  terms : ∀ place ∈ places path, ¬IsLeadingPoint place.1 place.2 ∧ ¬IsViewportUnit place.1 place.2
  layer : splitTopLevel ',' path = [path]
  head : ∀ c ∈ path.head?, isBlank c = false ∧ Config.isQuote c = false
  last : ∀ c ∈ path.getLast?, isBlank c = false ∧ Config.isQuote c = false

variable {config : Option Config} {property value path : Text}

theorem IsPlain.normalize_eq (h : IsPlain path) : normalize path = path := by
  rw [normalize_eq_self_iff, hasNoTerm_leadingPoint_iff, hasNoTerm_viewport_iff]
  exact ⟨fun place hplace => (h.terms place hplace).1, fun place hplace => (h.terms place hplace).2⟩

theorem IsPlain.fontName_eq (h : IsPlain path) : fontName path = path := by
  rw [fontName, h.normalize_eq, firstTopLevel_of_isWhole (splitTopLevel_eq_singleton_iff.mp h.layer)]
  exact trim_eq_self (fun c hc => (h.head c hc).1) fun c hc => (h.last c hc).1

theorem IsPlain.unquoted_eq (h : IsPlain path) : Config.unquoted path = path := by
  rw [Config.unquoted, trim_eq_self (fun c hc => (h.head c hc).1) fun c hc => (h.last c hc).1]
  exact trimWhile_eq_self (fun c hc => (h.head c hc).2) fun c hc => (h.last c hc).2

theorem unquoted_fontName (value : Text) : Config.unquoted (fontName value) = trimWhile Config.isQuote (fontName value) := by
  rw [Config.unquoted, show trim (fontName value) = fontName value from trim_trim _]

theorem exists_front_unquoted (value : Text) :
    ∃ front rest, normalize value = front ++ (Config.unquoted (fontName value) ++ rest) ∧ ∀ c ∈ front, c ∉ written := by
  obtain ⟨layers, hlayers, -⟩ := exists_eq_firstFrom_append ',' Nesting.top (normalize value)
  obtain ⟨a, b, hname, ha, -⟩ := exists_eq_trim (firstTopLevel ',' (normalize value))
  obtain ⟨q, r, hquoted, hq, -⟩ := exists_eq_trimWhile Config.isQuote (fontName value)
  rw [← firstTopLevel_eq] at hlayers
  rw [← unquoted_fontName] at hquoted
  have hblank : ∀ c ∈ written, ¬isBlank c = true := by decide
  have hquote : ∀ c ∈ written, ¬Config.isQuote c = true := by decide
  refine ⟨a ++ q, r ++ (b ++ layers), ?_, ?_⟩
  · calc normalize value
        = firstTopLevel ',' (normalize value) ++ layers := hlayers
      _ = a ++ (fontName value ++ b) ++ layers := congrArg (· ++ layers) hname
      _ = a ++ (q ++ (Config.unquoted (fontName value) ++ r) ++ b) ++ layers :=
        congrArg (fun name => a ++ (name ++ b) ++ layers) hquoted
      _ = a ++ q ++ (Config.unquoted (fontName value) ++ (r ++ (b ++ layers))) := by simp only [List.append_assoc]
  · exact List.forall_mem_append.mpr ⟨fun c hc hmem => hblank c hmem (ha c hc), fun c hc hmem => hquote c hmem (hq c hc)⟩

/-- A path comes through as it is just when it is plain. -/
theorem unquoted_fontName_eq_self_iff : Config.unquoted (fontName path) = path ↔ IsPlain path := by
  constructor
  · intro h
    obtain ⟨front, rest, hsplit, hfront⟩ := exists_front_unquoted path
    rw [h] at hsplit
    have hnormal := normalize_eq_self_of_front hfront hsplit
    -- what is left at the end is no longer than the path, so nothing was cut off on the way
    have hlayer : firstTopLevel ',' path <:+: path := by
      obtain ⟨layers, hlayers, -⟩ := exists_eq_firstFrom_append ',' Nesting.top path
      rw [← firstTopLevel_eq] at hlayers
      exact ⟨[], layers, hlayers.symm⟩
    have hname : trim (firstTopLevel ',' path) <:+: firstTopLevel ',' path := infix_trimWhile isBlank _
    rw [unquoted_fontName, fontName, hnormal] at h
    have hquoted : path <:+: trim (firstTopLevel ',' path) := by
      have hinfix := infix_trimWhile Config.isQuote (trim (firstTopLevel ',' path))
      rwa [h] at hinfix
    have hwhole : firstTopLevel ',' path = path := List.infix_antisymm hlayer (hquoted.trans hname)
    have htrim : trim path = path := by
      rw [hwhole] at hname hquoted
      exact List.infix_antisymm hname hquoted
    rw [hwhole, htrim] at h
    have hterms := normalize_eq_self_iff.mp hnormal
    rw [hasNoTerm_leadingPoint_iff, hasNoTerm_viewport_iff] at hterms
    exact {
      terms := fun place hplace => ⟨hterms.1 place hplace, hterms.2 place hplace⟩
      layer := splitTopLevel_eq_singleton_iff.mpr ((firstTopLevel_eq ',' path).symm.trans hwhole)
      head := fun c hc => ⟨head?_trim (htrim.symm ▸ hc), head?_trimWhile (h.symm ▸ hc)⟩
      last := fun c hc => ⟨getLast?_trim (htrim.symm ▸ hc), getLast?_trimWhile (h.symm ▸ hc)⟩ }
  · intro h
    rw [h.fontName_eq, h.unquoted_eq]

/-! ### Paths that are found again -/

theorem fontPath_eq_iff {config : Config} {name : Text} (hne : path ≠ []) (hpath : config.isAssetPath path = true) :
    config.fontPath name = path ↔
      config.assetPath? name = some path ∨ config.assetPath? name = none ∧ Config.unquoted name = path := by
  rw [Config.fontPath]
  cases hname : config.assetPath? name with
  | some found => simp
  | none =>
    simp only [reduceCtorEq, true_and, false_or]
    constructor
    · intro h
      split at h
      · exact h
      · exact absurd h.symm hne
    · intro h
      rw [h, if_pos hpath]

theorem isAssetPath_fontPath {config : Config} {name : Text} (h : config.fontPath name = path) (hpath : isBlankText path = false) :
    config.isAssetPath path = true := by
  rw [Config.fontPath] at h
  split at h
  · rename_i found hfound
    subst h
    rw [Config.assetPath?, Option.filter_eq_some_iff] at hfound
    obtain ⟨before, after, hsplit, -⟩ := List.lookup_eq_some_iff.mp hfound.1
    rw [Config.isAssetPath, hsplit]
    simp [hpath]
  · split at h
    · rename_i hasset
      rwa [h] at hasset
    · subst h
      cases hpath

/--
A path that a font was resolved to is resolved to itself just when what it is looked up as is the name of an asset with this path, or is the name of none and the path is plain.
-/
theorem translate_resolved_iff (hfont : lower property = "-unity-font".toList)
    (h : translate config property value = .ok path) (hpath : isBlankText path = false) :
    translate config property path = .ok path ↔
      config.bind (·.assetPath? (fontName path)) = some path ∨
        config.bind (·.assetPath? (fontName path)) = none ∧ IsPlain path := by
  have hvalue : isBlankText value = false := not_blank_of_translate h hpath
  have hne : path ≠ [] := by
    rintro rfl
    cases hpath
  rw [translate_font hvalue hfont, Except.ok.injEq] at h
  rw [translate_font hpath hfont, Except.ok.injEq]
  cases config with
  | none => exact absurd h.symm hne
  | some config =>
    have hasset := isAssetPath_fontPath h hpath
    exact (fontPath_eq_iff hne hasset).trans (or_congr_right (and_congr_right fun _ => unquoted_fontName_eq_self_iff))

/-- Two assets, one of them with the name of the path of the other, and one with a comma in its path. -/
def fontAssets : Config :=
  { assets := [("roboto".toList, "Assets/Roboto.ttf".toList), ("other".toList, "Roboto".toList), ("wide".toList, "Assets/A, B.ttf".toList)]
    uppercase := false
    focusable := none }

theorem translate_resolved_roboto :
    translate (some fontAssets) "-unity-font" "'Roboto', serif" = .ok "Assets/Roboto.ttf" ∧
      translate (some fontAssets) "-unity-font" "Assets/Roboto.ttf" = .ok "Assets/Roboto.ttf" := by
  have h : translate (some fontAssets) "-unity-font" "'Roboto', serif" = .ok "Assets/Roboto.ttf" := by decide +kernel
  refine ⟨h, (translate_resolved_iff (by decide) h (by decide)).mpr (.inr ⟨by decide +kernel, ?_⟩)⟩
  exact unquoted_fontName_eq_self_iff.mp (by decide +kernel)

/-- A path with a comma is cut, and a path with the name of another asset is taken for its name. -/
theorem not_translate_resolved :
    translate (some fontAssets) "-unity-font" "Wide" = .ok "Assets/A, B.ttf" ∧
      translate (some fontAssets) "-unity-font" "Assets/A, B.ttf" = .ok [] ∧
      translate (some fontAssets) "-unity-font" "Other" = .ok "Roboto" ∧
      translate (some fontAssets) "-unity-font" "Roboto" = .ok "Assets/Roboto.ttf" := by
  decide +kernel

end Value

end UiToolkit
