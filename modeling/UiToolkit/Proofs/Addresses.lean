import UiToolkit.Proofs.Balance
import UiToolkit.Proofs.Terms

/-!
# Addresses in quotes

An address in quotes, inside the brackets of a call, is one layer and one word for the properties that take a part. But the passes take the call to end at the first closing bracket, be it in quotes or not: what stands behind a closing bracket of the address lies open to them. And a gradient is looked for inside an address as it is elsewhere.
-/

namespace UiToolkit.Value

open Attempt Piece Text Text.Nesting

/-- The reference to a file by its address. -/
def address (s : Text) : Text := "url(\"" ++ (s ++ "\")")

/-- The places behind the first closing bracket of the address, if it has one. -/
def openPlaces (s : Text) : List (Text × Text) :=
  if s.contains ')' then
    placesAfter ("url(\"" ++ (s.takeWhile (· ≠ ')') ++ ")")) ((s.dropWhile (· ≠ ')')).drop 1 ++ "\")")
  else []

variable {s : Text}

/-! ### Spans -/

theorem guardedExtent?_url {inner : Text} (hinner : ')' ∉ inner) (after : Text) :
    guardedExtent? 'u' ("rl(" ++ (inner ++ ')' :: after)) = some (inner.length + 4) := by
  have hcall : callExtent? "url" 'u' ("rl(" ++ (inner ++ ')' :: after)) = some (inner.length + 4) := by
    refine callExtent?_eq_some_iff.mpr ⟨"rl(", inner, after, (List.append_assoc _ _ _).symm, by decide, hinner, by decide, ?_⟩
    change _ = 3 + inner.length + 1
    omega
  rw [guardedExtent?, hcall]
  rfl

theorem places_url {inner : Text} (hinner : ')' ∉ inner) (after : Text) :
    places ("url(" ++ (inner ++ ')' :: after)) = placesAfter ("url(" ++ (inner ++ ")")) after := by
  have hsplit : ("rl(" : Text) ++ (inner ++ ')' :: after) = ("rl(" ++ (inner ++ ")")) ++ after := by simp
  have hlength : inner.length + 4 = (("rl(" : Text) ++ (inner ++ ")")).length := by simp
  change placesAfter [] ('u' :: ("rl(" ++ (inner ++ ')' :: after))) = _
  rw [placesAfter, guardedExtent?_url hinner]
  simp only
  rw [hsplit, hlength, List.take_left, List.drop_left]
  rfl

/-- Only what stands behind a closing bracket of an address lies open. -/
theorem places_address (s : Text) : places (address s) = openPlaces s := by
  by_cases hcloses : ')' ∈ s
  · obtain ⟨inner, after, rfl, hinner⟩ := List.eq_append_cons_of_mem hcloses
    have hfront : ∀ c ∈ inner, (c != ')') = true := fun c hc => bne_iff_ne.mpr fun heq => hinner (heq ▸ hc)
    have htake : (inner ++ ')' :: after).takeWhile (· ≠ ')') = inner := by
      rw [List.takeWhile_append_of_pos fun c hc => by simpa using hfront c hc]
      simp
    have hdrop : (inner ++ ')' :: after).dropWhile (· ≠ ')') = ')' :: after := by
      rw [List.dropWhile_append_of_pos fun c hc => by simpa using hfront c hc]
      simp
    have hquoted : ')' ∉ '"' :: inner := List.not_mem_cons_of_ne_of_not_mem (by decide) hinner
    have hplaces := places_url hquoted (after ++ "\")")
    rw [openPlaces, if_pos (List.contains_iff_mem.mpr hcloses), htake, hdrop]
    simpa [address] using hplaces
  · have hquoted : ')' ∉ '"' :: (s ++ ['"']) := by
      simpa using hcloses
    have hplaces := places_url hquoted []
    rw [openPlaces, if_neg (by simpa using hcloses)]
    simpa [address, placesAfter] using hplaces

/-! ### Gradients -/

theorem opensArguments_quote {rest : Text} (h : opensArguments (s ++ '"' :: rest) = true) : opensArguments s = true := by
  induction s with
  | nil => exact absurd h (by simp [opensArguments, isBlank])
  | cons c s ih =>
    rw [opensArguments, List.cons_append, List.dropWhile_cons] at h
    rw [opensArguments, List.dropWhile_cons]
    split
    · rename_i hc
      rw [if_pos hc] at h
      exact ih h
    · rename_i hc
      rwa [if_neg hc] at h

theorem hasGradient_quote {rest : Text} (hrest : hasGradient rest = false) (h : hasGradient (s ++ '"' :: rest) = true) :
    hasGradient s = true := by
  have hquote : ∀ d ∈ ('"' :: rest).head?, ∀ letter ∈ "gradient".toList, isLetterAnyCase letter d = false := by
    intro d hd
    obtain rfl : '"' = d := Option.some.inj hd
    decide
  induction s with
  | nil =>
    rw [List.nil_append, hasGradient_cons, hrest, Bool.or_false, Bool.and_eq_true] at h
    exact absurd h.1 (by simp [startsWithAnyCase, isLetterAnyCase])
  | cons c s ih =>
    rw [List.cons_append, hasGradient_cons, Bool.or_eq_true, Bool.and_eq_true] at h
    rw [hasGradient_cons, Bool.or_eq_true, Bool.and_eq_true]
    refine h.imp (fun hhere => ?_) ih
    obtain ⟨hstarts, hopens⟩ := hhere
    have hstarts' : startsWithAnyCase "gradient" (c :: s) = true := startsWithAnyCase_of_append hquote hstarts
    have hlength : 8 ≤ (c :: s).length := length_le_of_startsWithAnyCase hstarts'
    rw [← List.cons_append, List.drop_append_of_le_length hlength] at hopens
    exact ⟨hstarts', opensArguments_quote hopens⟩

theorem hasGradient_address (s : Text) : hasGradient (address s) = hasGradient s := by
  rw [Bool.eq_iff_iff]
  constructor
  · intro h
    have hinside : hasGradient (s ++ '"' :: ")") = true := by
      simpa [address, hasGradient_cons, startsWithAnyCase, isLetterAnyCase] using h
    exact hasGradient_quote (by decide) hinside
  · exact fun h => hasGradient_of_append (hasGradient_append h _)

/-! ### Layers and words -/

theorem isWhole_address (hs : ∀ c ∈ s, c ≠ '"' ∧ c ≠ '\\') : IsWhole ',' top (address s) := by
  obtain ⟨hinside, hbehind⟩ := isWhole_quoted [')'] hs
  have hopened : top.after "url(\"" = ⟨[')'], some '"', false⟩ := rfl
  change IsWhole ',' top ("url(\"" ++ (s ++ "\")"))
  rw [isWhole_append, isWhole_append, hopened, hbehind]
  exact ⟨rfl, hinside, rfl⟩

theorem isBlankText_address (s : Text) : isBlankText (address s) = false := rfl

theorem getLast?_address (s : Text) : (address s).getLast? = some ')' := by
  change ("url(\"" ++ (s ++ "\")") : Text).getLast? = _
  rw [List.getLast?_append, List.getLast?_append]
  rfl

theorem head?_address_not_blank (s : Text) : ∀ c ∈ (address s).head?, isBlank c = false := by
  intro c hc
  obtain rfl : 'u' = c := Option.some.inj hc
  rfl

theorem getLast?_address_not_blank (s : Text) : ∀ c ∈ (address s).getLast?, isBlank c = false := by
  rw [getLast?_address]
  intro c hc
  obtain rfl : ')' = c := Option.some.inj hc
  rfl

theorem firstLayer_normalize_address (hs : ∀ c ∈ s, c ≠ '"' ∧ c ≠ '\\') :
    trim (firstTopLevel ',' (normalize (address s))) = normalize (address s) := by
  have hfilled := respelled_fillLeadingPoints (address s)
  have hpercent := respelled_viewportToPercent (fillLeadingPoints (address s))
  have hwhole := hpercent.isWhole isProper_top (hfilled.isWhole isProper_top (isWhole_address hs))
  rw [normalize, firstTopLevel_of_isWhole hwhole]
  apply trim_eq_self
  · exact hpercent.head?_not_blank (hfilled.head?_not_blank (head?_address_not_blank s))
  · exact hpercent.getLast?_not_blank (hfilled.getLast?_not_blank (getLast?_address_not_blank s))

variable {config : Option Config} {property : Text}

theorem partFor_normalize_address (hcorner : isCornerRadius (lower property) = false)
    (hs : ∀ c ∈ s, c ≠ '"' ∧ c ≠ '\\') : partFor property (normalize (address s)) = normalize (address s) := by
  rw [partFor, hcorner]
  simp only [Bool.false_eq_true, if_false]
  split
  · exact firstLayer_normalize_address hs
  · rfl

/-! ### Lengths -/

theorem ne_ofPixels_address (s : Text) (i : Int) : address s ≠ Text.ofInt i ++ "px".toList := by
  intro heq
  have hlast := congrArg List.getLast? heq
  rw [getLast?_address, List.getLast?_append] at hlast
  cases hlast

theorem doublePixels_address (s : Text) : doublePixels (address s) = .ok (address s) := by
  have htrim : trim (address s) = address s := trim_eq_self (head?_address_not_blank s) (getLast?_address_not_blank s)
  have hsplit : Numeral.split? (address s) = none := rfl
  rw [doublePixels, htrim, hsplit]

/-- Lengths are left alone only where there are none. -/
theorem finish_normalize_address : finish property (normalize (address s)) = .ok (address s) ↔
    normalize (address s) = address s ∧ HasNoTerm Pixels.readEm none (address s) := by
  constructor
  · intro h
    obtain ⟨px, hpx, h⟩ := bind_eq_ok.mp h
    obtain rfl : px = address s := by
      split at h
      · rcases doublePixels_cases h with heq | ⟨i, heq⟩
        · exact heq.symm
        · exact absurd heq (ne_ofPixels_address s i)
      · exact return_eq_ok.mp h
    refine ⟨Pixels.normalize_convertEms (normalize_normalize _) hpx, ?_⟩
    rw [(Pixels.eq_rewrite_of_convertEms hpx).1]
    exact Pixels.hasNoTerm_em _
  · rintro ⟨hnormal, hlengths⟩
    rw [hnormal]
    exact finish_eq_self (Pixels.convertEms_of_hasNoTerm hlengths) fun _ => doublePixels_address s

theorem translate_definition_address (hdefinition : lower property = "-unity-font-definition".toList)
    (hs : ∀ c ∈ s, c ≠ '"' ∧ c ≠ '\\') :
    translate config property (address s) = .ok (address s) ↔ normalize (address s) = address s := by
  rw [translate_definition (isBlankText_address s) hdefinition, firstLayer_normalize_address hs, Except.ok.injEq]

theorem translate_layer_address (hfont : lower property ≠ "-unity-font".toList)
    (hdefinition : lower property ≠ "-unity-font-definition".toList) (hcorner : isCornerRadius (lower property) = false)
    (hs : ∀ c ∈ s, c ≠ '"' ∧ c ≠ '\\') :
    translate config property (address s) = .ok (address s) ↔ (lower property ∈ gradientFree → hasGradient s = false) ∧
      normalize (address s) = address s ∧ HasNoTerm Pixels.readEm none (address s) := by
  rw [translate_eq (isBlankText_address s) hfont hdefinition, partFor_normalize_address hcorner hs]
  constructor
  · intro h
    split at h
    · cases h
    · rename_i hgradient
      have hsettled := finish_normalize_address.mp h
      refine ⟨fun hname => ?_, hsettled⟩
      rw [hsettled.1, hasGradient_address, List.contains_iff_mem.mpr hname] at hgradient
      simpa using hgradient
  · rintro ⟨hgradient, hsettled⟩
    rw [if_neg, finish_normalize_address.mpr hsettled]
    rw [hsettled.1, hasGradient_address, Bool.and_eq_true, List.contains_iff_mem]
    rintro ⟨hname, htext⟩
    rw [hgradient hname] at htext
    cases htext

/-- Nothing gives way in the text of an address just when nothing does behind its first closing bracket. -/
theorem forall_openPlaces_iff {lengths : Prop} :
    (∀ place ∈ openPlaces s, ¬IsLeadingPoint place.1 place.2 ∧ ¬IsViewportUnit place.1 place.2 ∧
        (lengths → ¬IsRelativeLength place.1 place.2)) ↔
      normalize (address s) = address s ∧ (lengths → HasNoTerm Pixels.readEm none (address s)) := by
  rw [normalize_eq_self_iff, hasNoTerm_leadingPoint_iff, hasNoTerm_viewport_iff, hasNoTerm_em_iff, places_address]
  constructor
  · intro h
    refine ⟨⟨fun place hplace => (h place hplace).1, fun place hplace => (h place hplace).2.1⟩, ?_⟩
    exact fun hlengths place hplace => (h place hplace).2.2 hlengths
  · rintro ⟨⟨hpoint, hviewport⟩, hlength⟩ place hplace
    exact ⟨hpoint place hplace, hviewport place hplace, fun hlengths => hlength hlengths place hplace⟩

/--
An address in quotes is copied through just when no term of the passes stands behind a closing bracket in it, and, for the properties that take no gradients, when it holds no gradient.
-/
theorem translate_address_iff (hfont : lower property ≠ "-unity-font".toList)
    (hcorner : isCornerRadius (lower property) = false) (hs : ∀ c ∈ s, c ≠ '"' ∧ c ≠ '\\') :
    translate config property (address s) = .ok (address s) ↔
      (lower property ∈ gradientFree → hasGradient s = false) ∧
        ∀ place ∈ openPlaces s, ¬IsLeadingPoint place.1 place.2 ∧ ¬IsViewportUnit place.1 place.2 ∧
          (lower property ≠ "-unity-font-definition".toList → ¬IsRelativeLength place.1 place.2) := by
  rw [forall_openPlaces_iff]
  by_cases hdefinition : lower property = "-unity-font-definition".toList
  · have hfree : lower property ∉ gradientFree := by
      rw [hdefinition]
      decide
    rw [translate_definition_address hdefinition hs]
    exact ⟨fun h => ⟨fun hname => absurd hname hfree, h, fun hname => absurd hdefinition hname⟩, fun h => h.2.1⟩
  · rw [translate_layer_address hfont hdefinition hcorner hs]
    exact and_congr_right fun _ => and_congr_right fun _ => ⟨fun h _ => h, fun h => h hdefinition⟩

/-- A file name with a number in brackets, as a second download gets one. -/
theorem translate_address_photo :
    translate none "background-image" (address "photo (1).png") = .ok (address "photo (1).png") ∧
      openPlaces "photo (1).png" ≠ [] := by
  have hsettled : normalize (address "photo (1).png") = address "photo (1).png" ∧
      HasNoTerm Pixels.readEm none (address "photo (1).png") :=
    finish_normalize_address.mp
      (show finish "background-image" (normalize (address "photo (1).png")) = .ok (address "photo (1).png") by decide +kernel)
  refine ⟨(translate_address_iff (by decide) (by decide) (by decide)).mpr ⟨by decide, ?_⟩, by decide +kernel⟩
  exact forall_openPlaces_iff.mpr ⟨hsettled.1, fun _ => hsettled.2⟩

/-- Behind the bracket a scale is taken for a number, and a copy of a picture of a gradient is taken for a gradient. -/
theorem not_translate_address_icon :
    translate none "background-image" (address "icon (1) .5x.png") = .ok (address "icon (1) 0.5x.png") ∧
      translate none "background-image" (address "icon (1) .5x.png") ≠ .ok (address "icon (1) .5x.png") ∧
      translate none "background-image" (address "gradient (1).png") = .ok "none" := by
  decide +kernel

end UiToolkit.Value
