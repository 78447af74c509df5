import UiToolkit.Proofs.BalancedValues
import UiToolkit.Proofs.PixelTerms
import UiToolkit.Proofs.Reports
import UiToolkit.Proofs.Splitting

/-!
# Shadows of boxes

The shadow of a box is written as one of its text: up to three offsets of the first layer, in pixels, and a fixed color. A line of this kind is translated to one of its kind. There are no units left in it to convert, its only commas stand in the brackets of the color, and the only thing that is ever added to it is a zero in front of a leading point.
-/

namespace UiToolkit

open Attempt Piece Text

/-! ### Texts in pixels -/

namespace Pixels

open Numeral Value

/-- A numeral with the unit of pixels behind it. -/
def IsPixelText (s : Text) : Prop := ∃ numeral, IsNumeral numeral ∧ s = numeral ++ "px".toList

def isPixelChar (c : Char) : Bool := isNumeralChar c || c == 'p' || c == 'x'

/-- The value of a term in pixels, if it has one that can be computed. -/
def value? (term : Text) : Option Text := (ofTerm? term).toOption.join

theorem value?_of_ofTerm? {term : Text} {px : Option Text} (h : ofTerm? term = .ok px) : value? term = px := by
  rw [value?, h]
  rfl

theorem value?_eq_some_iff {term px : Text} : value? term = some px ↔ ofTerm? term = .ok (some px) := by
  constructor
  · intro h
    rw [value?] at h
    cases hterm : ofTerm? term with
    | error e =>
      rw [hterm] at h
      cases h
    | ok result =>
      rw [hterm] at h
      exact congrArg Except.ok h
  · exact value?_of_ofTerm?

theorem isNumeral_ofInt (i : Int) : IsNumeral (Text.ofInt i) := by
  have hunsigned : ∀ n : Nat, IsUnsigned (Text.ofNat n) := by
    intro n
    refine ⟨Text.ofNat n, [], ?_, ?_, .inr ⟨rfl, rfl⟩⟩
    · rw [List.append_nil]
      exact Nat.toDigits_ne_nil
    · rw [List.append_nil]
      exact fun c hc => isDecimal_of_isDigit (isDigit_of_mem_ofNat hc)
  cases i with
  | ofNat n => exact ⟨[], Text.ofNat n, rfl, by decide, hunsigned n⟩
  | negSucc n => exact ⟨['-'], Text.ofNat (n + 1), rfl, by decide, hunsigned (n + 1)⟩

theorem isPixelText_of_ofTerm? {term px : Text} (h : ofTerm? term = .ok (some px)) : IsPixelText px := by
  unfold ofTerm? at h
  split at h
  · cases h
  · rename_i numeral unit hsplit
    extract_lets unit' at h
    split at h
    · obtain ⟨text, htext, heq⟩ := map_apply_eq_ok.mp h
      cases heq
      obtain ⟨i, -, heq⟩ := bind_eq_ok.mp htext
      exact ⟨Text.ofInt i, isNumeral_ofInt i, (return_eq_ok.mp heq).symm⟩
    · split at h
      · cases h
        exact ⟨numeral, (split?_eq_some_iff.mp hsplit).1.isNumeral, rfl⟩
      · cases h

variable {px : Text}

theorem IsPixelText.isPixelChar (h : IsPixelText px) : ∀ c ∈ px, isPixelChar c = true := by
  obtain ⟨numeral, hnumeral, rfl⟩ := h
  refine List.forall_mem_append.mpr ⟨fun c hc => ?_, by decide⟩
  rw [Pixels.isPixelChar, isNumeralChar_of_mem hnumeral c hc]
  rfl

theorem isDecimal_point : isDecimal '.' = false := by decide

theorem of_isNumeral_point {digits : Text} (h : IsNumeral ('.' :: digits)) :
    digits ≠ [] ∧ ∀ c ∈ digits, isDecimal c = true := by
  obtain ⟨sign, number, hsplit, hsign, whole, fraction, hne, hdigits, hnumber⟩ := h
  have hunsigned : number = '.' :: digits := by
    simp only [List.mem_cons, List.not_mem_nil, or_false] at hsign
    rcases hsign with rfl | rfl | rfl
    · exact hsplit.symm
    · cases hsplit
    · cases hsplit
  have hwhole : whole = [] := by
    cases whole with
    | nil => rfl
    | cons c whole =>
      have hc : c = '.' := by
        rcases hnumber with rfl | ⟨-, rfl⟩ <;> exact (List.cons.inj hunsigned).1
      rw [hc] at hdigits
      exact absurd (hdigits '.' List.mem_cons_self) (by rw [isDecimal_point]; exact Bool.false_ne_true)
  subst hwhole
  rcases hnumber with rfl | ⟨rfl, -⟩
  · obtain rfl := (List.cons.inj hunsigned).2
    exact ⟨hne, hdigits⟩
  · exact absurd rfl hne

theorem IsPixelText.ne_nil (h : IsPixelText px) : px ≠ [] := by
  obtain ⟨numeral, hnumeral, rfl⟩ := h
  exact fun hnil => hnumeral.ne_nil (List.append_eq_nil_iff.mp hnil).1

/-- Texts in pixels are numerals, each with the unit behind it. -/
theorem exists_numerals {offsets : List Text} (h : ∀ px ∈ offsets, IsPixelText px) :
    ∃ numerals : List Text, (∀ numeral ∈ numerals, IsNumeral numeral) ∧ offsets = numerals.map (· ++ "px".toList) := by
  induction offsets with
  | nil => exact ⟨[], nofun, rfl⟩
  | cons px offsets ih =>
    obtain ⟨⟨numeral, hnumeral, rfl⟩, hoffsets⟩ := List.forall_mem_cons.mp h
    obtain ⟨numerals, hnumerals, rfl⟩ := ih hoffsets
    exact ⟨numeral :: numerals, List.forall_mem_cons.mpr ⟨hnumeral, hnumerals⟩, rfl⟩

theorem exists_isDecimal_of_isNumeral {numeral : Text} (h : IsNumeral numeral) : ∃ c ∈ numeral, isDecimal c = true := by
  obtain ⟨sign, number, rfl, -, whole, fraction, hne, hdigits, hnumber⟩ := h
  obtain ⟨c, hc⟩ := List.exists_mem_of_ne_nil _ hne
  refine ⟨c, List.mem_append_right sign ?_, hdigits c hc⟩
  rcases hnumber with rfl | ⟨rfl, rfl⟩
  · exact (List.mem_append.mp hc).elim (List.mem_append_left _) fun hc =>
      List.mem_append_right whole (List.mem_cons_of_mem '.' hc)
  · rwa [List.append_nil] at hc

end Pixels

/-! ### Reading over a run -/

namespace Piece

variable {α : Type} {read : Reader α}

theorem mem_of_mem_term {before : Option Char} {s text : Text} {meaning : α} (h : .term text meaning ∈ ofText read before s)
    {c : Char} (hc : c ∈ text) : c ∈ s := by
  rw [← flatMap_source_ofText read before s]
  exact List.mem_flatMap.mpr ⟨_, h, hc⟩

/-- A pass reads over a run of characters that keep terms from beginning after them. -/
theorem rewrite_run (write : α → Text) {b : Char} (hb : Blocks read b) (run : Text)
    (hrun : ∀ c ∈ run, neverGuards c = true ∧ Blocks read c) {d : Char} (hd : neverGuards d = true) (rest : Text) :
    rewrite write (ofText read (some b) (run ++ d :: rest)) = run ++ d :: rewrite write (ofText read (some d) rest) := by
  induction run generalizing b with
  | nil =>
    rw [List.nil_append, ofText_plain (guardedExtent?_eq_none hd _) (hb d rest)]
    rfl
  | cons c run ih =>
    obtain ⟨⟨hguards, hc⟩, hrun⟩ := List.forall_mem_cons.mp hrun
    rw [List.cons_append, ofText_plain (guardedExtent?_eq_none hguards _) (hb c (run ++ d :: rest))]
    exact congrArg (c :: ·) (ih hc hrun)

end Piece

namespace Value

open Nesting Pixels Transformation

theorem not_opensNumber_of_isPixelChar {c : Char} (hc : isPixelChar c = true) : opensNumber c = false := by
  refine Bool.eq_false_iff.mpr fun hopens => ?_
  rcases Bool.or_eq_true_iff.mp hopens with hopens | hopens
  · rcases Bool.or_eq_true_iff.mp hopens with hblank | hcomma
    · have hnone := forall_blank (p := fun d => !isPixelChar d) (by decide) hblank
      rw [hc] at hnone
      cases hnone
    · rw [beq_iff_eq.mp hcomma] at hc
      exact absurd hc (by decide)
  · rw [beq_iff_eq.mp hopens] at hc
    exact absurd hc (by decide)

theorem neverGuards_of_isPixelChar {c : Char} (hc : isPixelChar c = true) : neverGuards c = true :=
  neverGuards_of (by decide) hc

theorem not_isBlank_of_isPixelChar {c : Char} (hc : isPixelChar c = true) : isBlank c = false := by
  have hopens := not_opensNumber_of_isPixelChar hc
  rw [opensNumber, Bool.or_eq_false_iff, Bool.or_eq_false_iff] at hopens
  exact hopens.1.1

/-- No letter of a text in pixels is the first of a viewport unit or the last of a relative one. -/
theorem toLower_ne_of_isPixelChar {c : Char} (hc : isPixelChar c = true) : c.toLower ≠ 'v' ∧ c.toLower ≠ 'm' := by
  have hne : ∀ letter : Char, letter ∈ "vm".toList → c.toLower ≠ letter := by
    intro letter hletter hlower
    have hascii : ∀ d ∈ "vm".toList, d.toNat < 128 := by decide
    have hall := forall_ascii (p := fun d => !("vm".toList.contains d.toLower && isPixelChar d)) (by decide)
      (toNat_lt_of_toLower hlower (hascii letter hletter))
    rw [hlower, List.contains_iff_mem.mpr hletter, hc] at hall
    cases hall
  exact ⟨hne 'v' (by decide), hne 'm' (by decide)⟩

variable {px : Text}

/-- A zero in front of a leading point. -/
def withZero (px : Text) : Text := if px.head? = some '.' then '0' :: px else px

theorem isPixelText_withZero (h : IsPixelText px) : IsPixelText (withZero px) := by
  rw [withZero]
  split
  · rename_i hpoint
    obtain ⟨numeral, hnumeral, rfl⟩ := h
    obtain ⟨c, digits, rfl⟩ := List.exists_cons_of_ne_nil hnumeral.ne_nil
    obtain rfl : c = '.' := Option.some.inj hpoint
    obtain ⟨-, hdigits⟩ := of_isNumeral_point hnumeral
    refine ⟨'0' :: '.' :: digits, ⟨[], '0' :: '.' :: digits, rfl, by decide, ['0'], digits, by simp, ?_, .inl rfl⟩, rfl⟩
    exact List.forall_mem_cons.mpr ⟨by decide, hdigits⟩
  · exact h

/-- An offset is read over, but for a point at its beginning. -/
theorem rewrite_offset (h : IsPixelText px) (before : Option Char) (hbefore : before.all opensNumber = true) (rest : Text) :
    rewrite (fun _ => "0.") (ofText readLeadingPoint before (px ++ rest)) =
      withZero px ++ rewrite (fun _ => "0.") (ofText readLeadingPoint (some 'x') rest) := by
  have hchars := h.isPixelChar
  obtain ⟨numeral, hnumeral, rfl⟩ := h
  obtain ⟨c, digits, rfl⟩ := List.exists_cons_of_ne_nil hnumeral.ne_nil
  have hread : ∀ d ∈ c :: (digits ++ "px".toList), neverGuards d = true ∧ Blocks readLeadingPoint d := fun d hd =>
    ⟨neverGuards_of_isPixelChar (hchars d hd), blocks_leadingPoint (not_opensNumber_of_isPixelChar (hchars d hd))⟩
  obtain ⟨⟨hguards, hblocks⟩, hothers⟩ := List.forall_mem_cons.mp hread
  have hrest : rewrite (fun _ => "0.") (ofText readLeadingPoint (some c) (digits ++ "px".toList ++ rest)) =
      digits ++ "px".toList ++ rewrite (fun _ => "0.") (ofText readLeadingPoint (some 'x') rest) := by
    have hrun := rewrite_run (fun _ : Unit => "0.".toList) hblocks (digits ++ ['p'])
      (fun d hd => hothers d (by simpa using Or.imp_right Or.inl (List.mem_append.mp hd))) (d := 'x') (by decide) rest
    simpa using hrun
  rw [List.cons_append, List.cons_append]
  by_cases hpoint : c = '.'
  · subst hpoint
    obtain ⟨hne, hdigits⟩ := of_isNumeral_point hnumeral
    obtain ⟨d, digits, rfl⟩ := List.exists_cons_of_ne_nil hne
    have hfound : readLeadingPoint before '.' (d :: digits ++ "px".toList ++ rest) = some (0, ()) := by
      simp [readLeadingPoint, hbefore, hdigits d List.mem_cons_self]
    rw [ofText_term (guardedExtent?_eq_none hguards _) hfound]
    simp only [rewrite_term, List.take_zero, List.drop_zero]
    exact congrArg ("0.".toList ++ ·) hrest
  · have hnone : readLeadingPoint before c (digits ++ "px".toList ++ rest) = none := by
      rw [readLeadingPoint, beq_false_of_ne hpoint]
      rfl
    have hsame : withZero (c :: (digits ++ "px".toList)) = c :: (digits ++ "px".toList) :=
      if_neg fun heq => hpoint (Option.some.inj heq)
    rw [ofText_plain (guardedExtent?_eq_none hguards _) hnone, hsame]
    exact congrArg (c :: ·) hrest

theorem fillLeadingPoints_of_isPixelText (h : IsPixelText px) : fillLeadingPoints px = withZero px := by
  have hall := rewrite_offset h none rfl []
  rwa [List.append_nil, ofText_nil, rewrite_nil, List.append_nil] at hall

variable {offsets : List Text}

theorem isPixelText_map_fillLeadingPoints (h : ∀ px ∈ offsets, IsPixelText px) :
    ∀ px ∈ offsets.map fillLeadingPoints, IsPixelText px := by
  intro px hpx
  obtain ⟨offset, hoffset, rfl⟩ := List.mem_map.mp hpx
  rw [fillLeadingPoints_of_isPixelText (h offset hoffset)]
  exact isPixelText_withZero (h offset hoffset)

/-! ### The translation of a shadow -/

/-- The offsets and the color, with blanks between them. -/
def shadowLine (offsets : List Text) : Text := joinWith [' '] (offsets ++ [shadowColor])

theorem shadowLine_nil : shadowLine [] = shadowColor := by decide

theorem shadowLine_cons (px : Text) (offsets : List Text) : shadowLine (px :: offsets) = px ++ ' ' :: shadowLine offsets := by
  cases offsets with
  | nil => rw [shadowLine, shadowLine, List.nil_append, List.cons_append, List.nil_append, joinWith_cons]; rfl
  | cons next offsets =>
    have hjoin := joinWith_cons_cons [' '] px next (offsets ++ [shadowColor])
    rwa [List.append_assoc] at hjoin

theorem mem_shadowLine (hoffsets : ∀ px ∈ offsets, IsPixelText px) {c : Char} (hc : c ∈ shadowLine offsets) :
    isPixelChar c = true ∨ c ∈ ' ' :: shadowColor := by
  rcases mem_joinWith hc with hblank | ⟨part, hpart, hc⟩
  · exact .inr (List.mem_singleton.mp hblank ▸ List.mem_cons_self)
  · rcases List.mem_append.mp hpart with hoffset | hcolor
    · exact .inl ((hoffsets part hoffset).isPixelChar c hc)
    · rw [List.mem_singleton.mp hcolor] at hc
      exact .inr (List.mem_cons_of_mem ' ' hc)

theorem toLower_ne_of_mem_shadowLine (hoffsets : ∀ px ∈ offsets, IsPixelText px) {c : Char} (hc : c ∈ shadowLine offsets) :
    c.toLower ≠ 'v' ∧ c.toLower ≠ 'm' := by
  rcases mem_shadowLine hoffsets hc with hpixel | hcolor
  · exact toLower_ne_of_isPixelChar hpixel
  · exact (by decide : ∀ d ∈ ' ' :: shadowColor, d.toLower ≠ 'v' ∧ d.toLower ≠ 'm') c hcolor

theorem fillLeadingPoints_shadowLine (hoffsets : ∀ px ∈ offsets, IsPixelText px) :
    fillLeadingPoints (shadowLine offsets) = shadowLine (offsets.map fillLeadingPoints) := by
  have hfrom : ∀ before : Option Char, before.all opensNumber = true →
      rewrite (fun _ => "0.") (ofText readLeadingPoint before (shadowLine offsets)) = shadowLine (offsets.map fillLeadingPoints) := by
    induction offsets with
    | nil =>
      intro before _
      have hrest : rewrite (fun _ => "0.".toList) (ofText readLeadingPoint (some 'r') shadowColor.tail) = shadowColor.tail := by
        decide +kernel
      rw [List.map_nil, shadowLine_nil]
      change rewrite _ (ofText readLeadingPoint before ('r' :: shadowColor.tail)) = 'r' :: shadowColor.tail
      rw [ofText_plain (guardedExtent?_of_opensSpan (by decide)) rfl]
      exact congrArg ('r' :: ·) hrest
    | cons px offsets ih =>
      intro before hbefore
      obtain ⟨hpx, hoffsets⟩ := List.forall_mem_cons.mp hoffsets
      rw [shadowLine_cons, List.map_cons, shadowLine_cons, rewrite_offset hpx before hbefore, ← fillLeadingPoints_of_isPixelText hpx,
        ← ih hoffsets (some ' ') (by decide)]
      exact congrArg (fillLeadingPoints px ++ ·) (rewrite_run _ (blocks_leadingPoint (by decide)) []
        (fun d hd => absurd hd List.not_mem_nil) (by decide) _)
  exact hfrom none rfl

theorem viewportToPercent_shadowLine (hoffsets : ∀ px ∈ offsets, IsPixelText px) :
    viewportToPercent (shadowLine offsets) = shadowLine offsets := by
  apply rewrite_of_hasNoTerm
  intro text meaning hterm
  obtain ⟨b, c, cs, n, hread, rfl⟩ := exists_read_of_mem_ofText hterm
  obtain ⟨-, -, hv, -⟩ := readViewport_eq_some hread
  exact (toLower_ne_of_mem_shadowLine hoffsets (mem_of_mem_term hterm List.mem_cons_self)).1 hv

theorem convertEms_shadowLine (hoffsets : ∀ px ∈ offsets, IsPixelText px) :
    convertEms (shadowLine offsets) = .ok (shadowLine offsets) := by
  apply convertEms_of_hasNoTerm
  intro text meaning hterm
  obtain ⟨b, c, cs, extent, hread, rfl⟩ := exists_read_of_mem_ofText hterm
  obtain ⟨n, size, -, -, hsize, hextent, -⟩ := readEm_eq_some hread
  obtain ⟨unit, after, hdrop, rfl, hunit, -⟩ := exists_of_emExtent? hsize
  obtain ⟨d, hd, hm⟩ : ∃ d ∈ unit, d.toLower = 'm' := by
    have hletter : ∀ word ∈ ["em".toList, "rem".toList], 'm' ∈ word := by decide
    exact List.mem_map.mp (hletter _ hunit)
  have hmem : d ∈ c :: cs.take extent := by
    rw [← List.take_succ_cons, hextent, List.take_add, hdrop, List.take_left]
    exact List.mem_append_right _ hd
  exact (toLower_ne_of_mem_shadowLine hoffsets (mem_of_mem_term hterm hmem)).2 hm

/-- The commas of the color stand in its brackets, and there are no others. -/
theorem isWhole_shadowLine (hoffsets : ∀ px ∈ offsets, IsPixelText px) : IsWhole ',' top (shadowLine offsets) := by
  induction offsets with
  | nil =>
    rw [shadowLine_nil]
    exact (by decide : firstFrom ',' top shadowColor = shadowColor)
  | cons px offsets ih =>
    obtain ⟨hpx, hoffsets⟩ := List.forall_mem_cons.mp hoffsets
    have hplain : ∀ c ∈ px, c ∉ nestingChars := by
      intro c hc hmem
      have hnone : ∀ d ∈ nestingChars, isPixelChar d = false := by decide
      exact Bool.false_ne_true ((hnone c hmem).symm.trans (hpx.isPixelChar c hc))
    have hrun : ∀ c ∈ px ++ [' '], c ∉ nestingChars :=
      List.forall_mem_append.mpr ⟨hplain, List.forall_mem_singleton.mpr (by decide)⟩
    have hsplit : shadowLine (px :: offsets) = (px ++ [' ']) ++ shadowLine offsets := by
      rw [shadowLine_cons, List.append_assoc, List.singleton_append]
    have hafter : top.after (px ++ [' ']) = top := after_plain isProper_top (by simp) hrun
    rw [hsplit, isWhole_append, hafter]
    exact ⟨isWhole_plain isProper_top hrun, ih hoffsets⟩

theorem exists_shadowLine_eq_append (offsets : List Text) : ∃ before, shadowLine offsets = before ++ shadowColor := by
  induction offsets with
  | nil => exact ⟨[], shadowLine_nil⟩
  | cons px offsets ih =>
    obtain ⟨before, hbefore⟩ := ih
    exact ⟨px ++ ' ' :: before, by rw [shadowLine_cons, hbefore, List.append_assoc, List.cons_append]⟩

theorem trim_shadowLine (hoffsets : ∀ px ∈ offsets, IsPixelText px) : trim (shadowLine offsets) = shadowLine offsets := by
  apply trim_eq_self
  · intro c hc
    cases offsets with
    | nil =>
      obtain rfl : 'r' = c := Option.some.inj hc
      decide
    | cons px offsets =>
      have hpx := hoffsets px List.mem_cons_self
      rw [shadowLine_cons, List.head?_append_of_ne_nil _ hpx.ne_nil] at hc
      exact not_isBlank_of_isPixelChar (hpx.isPixelChar c (List.mem_of_mem_head? hc))
  · intro c hc
    obtain ⟨before, hbefore⟩ := exists_shadowLine_eq_append offsets
    rw [hbefore, List.getLast?_append] at hc
    obtain rfl : ')' = c := Option.some.inj hc
    decide

theorem not_blank_shadowLine (offsets : List Text) : isBlankText (shadowLine offsets) = false := by
  obtain ⟨before, hbefore⟩ := exists_shadowLine_eq_append offsets
  refine Bool.eq_false_iff.mpr fun hblank => ?_
  have hall := List.all_eq_true.mp hblank 'r' (by rw [hbefore]; exact List.mem_append_right _ (by decide))
  exact absurd hall (by decide)

/-- The translation puts a zero in front of each offset that begins with a point, and changes nothing else. -/
theorem translate_shadowLine {config : Option Config} (hoffsets : ∀ px ∈ offsets, IsPixelText px) :
    translate config "text-shadow" (shadowLine offsets) = .ok (shadowLine (offsets.map fillLeadingPoints)) := by
  have hfilled : ∀ px ∈ offsets.map fillLeadingPoints, IsPixelText px := isPixelText_map_fillLeadingPoints hoffsets
  have hnormal : normalize (shadowLine offsets) = shadowLine (offsets.map fillLeadingPoints) := by
    rw [normalize, fillLeadingPoints_shadowLine hoffsets, viewportToPercent_shadowLine hfilled]
  have hpart : partFor "text-shadow" (shadowLine (offsets.map fillLeadingPoints)) = shadowLine (offsets.map fillLeadingPoints) := by
    have hlayer : trim (firstTopLevel ',' (shadowLine (offsets.map fillLeadingPoints))) = shadowLine (offsets.map fillLeadingPoints) := by
      rw [firstTopLevel_of_isWhole (isWhole_shadowLine hfilled), trim_shadowLine hfilled]
    have hname : singleValued.contains (lower "text-shadow") = true ∧ isCornerRadius (lower "text-shadow") = false := by decide
    rw [partFor, hname.1, hname.2, if_pos rfl, if_neg Bool.false_ne_true, hlayer]
  rw [translate_eq (not_blank_shadowLine offsets) (by decide) (by decide), hnormal, hpart]
  exact finish_eq_self (convertEms_shadowLine hfilled) (fun hspacing => absurd hspacing (by decide))

end Value

/-! ### Offsets -/

theorem Text.mem_trim_of_mem_words {value term : Text} (hterm : term ∈ words (firstTopLevel ',' value)) {c : Char} (hc : c ∈ term) :
    c ∈ trim value := by
  have hlayer : c ∈ firstTopLevel ',' value := (infix_of_mem_cut (List.mem_filter.mp hterm).1).mem hc
  rw [firstTopLevel_eq] at hlayer
  obtain ⟨rest, hsplit, -⟩ := exists_eq_firstFrom_append ',' Nesting.top value
  have hvalue : c ∈ value := by
    rw [hsplit]
    exact List.mem_append_left rest hlayer
  obtain ⟨before, after, heq, hbefore, hafter⟩ := exists_eq_trim value
  have hplain : isBlank c = false := not_isBlank_of_mem_words hterm c hc
  rw [heq] at hvalue
  rcases List.mem_append.mp hvalue with hblank | hrest
  · exact absurd (hbefore c hblank) (by rw [hplain]; exact Bool.false_ne_true)
  · exact (List.mem_append.mp hrest).resolve_right fun hblank => by
      rw [hafter c hblank] at hplain
      cases hplain

namespace Transformation

open Pixels

/-- The terms of the first layer up to the first that has no value in pixels. -/
def lengthTerms (value : Text) : List Text := (words (firstTopLevel ',' value)).takeWhile fun term => (value? term).isSome

/-- The offsets are the values of the terms that have one, as far as there is room. -/
theorem map_leadingLengths {room : Nat} {terms offsets : List Text} (h : leadingLengths room terms = .ok offsets) :
    offsets.map some = ((terms.takeWhile fun term => (value? term).isSome).take room).map value? := by
  induction terms generalizing room offsets with
  | nil =>
    cases h
    simp
  | cons term terms ih =>
    rw [leadingLengths] at h
    obtain ⟨px, hpx, h⟩ := bind_eq_ok.mp h
    have hvalue := value?_of_ofTerm? hpx
    split at h
    · rename_i px room
      obtain ⟨rest, hrest, heq⟩ := bind_eq_ok.mp h
      rw [← return_eq_ok.mp heq, List.takeWhile_cons, hvalue, Option.isSome_some, if_pos rfl, List.take_succ_cons,
        List.map_cons, List.map_cons, ih hrest, hvalue]
    · rename_i hstop
      rw [← return_eq_ok.mp h, List.takeWhile_cons, hvalue]
      cases px with
      | none => simp
      | some px =>
        cases room with
        | zero => simp
        | succ room => exact absurd rfl (hstop px room rfl)

theorem lengthTerms_of_lower_eq_none {value : Text} (h : lower (trim value) = "none".toList) : lengthTerms value = [] := by
  have hletters : ∀ c ∈ trim value, isDecimal c = false := by
    intro c hc
    have hlower : c.toLower ∈ "none".toList := by
      rw [← (lower_eq_iff (by decide)).mp h]
      exact List.mem_map_of_mem hc
    have hascii : ∀ d ∈ "none".toList, d.toNat < 128 := by decide
    have hall := forall_ascii (p := fun d => !("none".toList.contains d.toLower && isDecimal d)) (by decide)
      (toNat_lt_of_toLower rfl (hascii _ hlower))
    rw [List.contains_iff_mem.mpr hlower] at hall
    simpa using hall
  have hnone : ∀ term ∈ words (firstTopLevel ',' value), value? term = none := by
    intro term hterm
    refine Option.eq_none_iff_forall_not_mem.mpr fun px hpx => ?_
    obtain ⟨numeral, unit, hnumeral, -, htrim⟩ := isLength_iff_append.mp (isSome_ofTerm? (value?_eq_some_iff.mp hpx)).symm
    obtain ⟨c, hc, hdecimal⟩ := exists_isDecimal_of_isNumeral hnumeral
    have hmem : c ∈ term := by
      rw [← trim_of_mem_words hterm, htrim]
      exact List.mem_append_left unit hc
    rw [hletters c (mem_trim_of_mem_words hterm hmem)] at hdecimal
    cases hdecimal
  rw [lengthTerms]
  cases hwords : words (firstTopLevel ',' value) with
  | nil => rfl
  | cons term terms =>
    rw [hwords] at hnone
    rw [List.takeWhile_cons, hnone term List.mem_cons_self]
    rfl

end Transformation

/-! ### Declarations -/

namespace FallbackTable

theorem synthesize_boxShadow (value : Text) :
    bundled.synthesize "box-shadow" value =
      if lower (trim value) = "none".toList then .ok []
      else (fun text => [("text-shadow".toList, trim (text.getD []))].filter fun (_, text) => !text.isEmpty) <$>
        Transformation.shadowText value := by
  have hrules : bundled.rulesFor "box-shadow" = [⟨⟨none, some ["none"], none⟩, [⟨"text-shadow", .transformation .shadow⟩]⟩] := rfl
  have hguard : (⟨none, some ["none".toList], none⟩ : Guard).holds value = !(lower (trim value) == "none".toList) := by
    simp only [Guard.holds, Option.all_none, Option.all_some, Bool.true_and, Bool.and_true, List.contains_cons,
      List.contains_nil, Bool.or_false]
  rw [synthesize, hrules, List.find?_cons, hguard]
  by_cases hnone : lower (trim value) = "none".toList
  · rw [if_pos hnone, beq_iff_eq.mpr hnone]
    rfl
  · rw [if_neg hnone, beq_false_of_ne hnone]
    cases htext : Transformation.shadowText value with
    | error e => simp [Filling.fill?, Transformation.result?, htext]
    | ok text => simp [Filling.fill?, Transformation.result?, htext]

end FallbackTable

namespace Converter

open Numeral Pixels Transformation Value

variable {config : Config} {d : Declaration} {h : Handling}

theorem boxShadow_support : Policy.bundled.isKnown "box-shadow" = true ∧ Policy.bundled.isNative "box-shadow" = false ∧
    Policy.bundled.isNative "text-shadow" = true := by
  rw [Policy.isKnown_bundled, Policy.isNative_bundled, Policy.isNative_bundled]
  decide

theorem substitutes_of_synthesize_nil {c : Converter} {property value : Text}
    (hsynthesized : c.fallbacks.synthesize property value = .ok []) : c.substitutes property value = .ok [] := by
  rw [substitutes, hsynthesized]
  rfl

theorem substitutes_of_synthesize_singleton {c : Converter} {property value target source text : Text}
    (hsynthesized : c.fallbacks.synthesize property value = .ok [(target, source)]) (hadmits : c.admits property target = true)
    (htranslate : c.translate target source = .ok text) (hvisible : isBlankText text = false) :
    c.substitutes property value = .ok [(target, text)] := by
  refine bind_eq_ok.mpr ⟨_, hsynthesized, map_eq_ok.mpr ⟨[(target, text)], ?_, ?_⟩⟩
  · simp only [List.filter_cons, hadmits, if_true, List.filter_nil, List.mapM_cons, List.mapM_nil, htranslate]
    rfl
  · simp [hvisible]

/-- The only substitute for a shadow is a shadow of the text, with each offset that begins with a point given a zero. -/
theorem substitutes_boxShadow {value : Text} {pairs : List (Text × Text)}
    (hpairs : (bundled config).substitutes "box-shadow" value = .ok pairs) :
    ∃ offsets, offsets.map some = ((lengthTerms value).take 3).map value? ∧ (∀ px ∈ offsets, IsPixelText px) ∧
      pairs = if offsets = [] then [] else [("text-shadow".toList, shadowLine (offsets.map fillLeadingPoints))] := by
  obtain ⟨synthesized, hsynthesized, -⟩ := bind_eq_ok.mp hpairs
  have htable : FallbackTable.bundled.synthesize "box-shadow" value = .ok synthesized := hsynthesized
  rw [FallbackTable.synthesize_boxShadow] at htable
  split at htable
  · rename_i hnone
    cases htable
    cases (substitutes_of_synthesize_nil hsynthesized).symm.trans hpairs
    exact ⟨[], by rw [lengthTerms_of_lower_eq_none hnone]; rfl, nofun, rfl⟩
  · obtain ⟨text, htext, rfl⟩ := map_eq_ok.mp htable
    obtain ⟨offsets, hoffsets, rfl⟩ := map_eq_ok.mp htext
    have hpixels : ∀ px ∈ offsets, IsPixelText px := forall_leadingLengths isPixelText_of_ofTerm? hoffsets
    refine ⟨offsets, map_leadingLengths hoffsets, hpixels, ?_⟩
    cases offsets with
    | nil =>
      cases (substitutes_of_synthesize_nil hsynthesized).symm.trans hpairs
      rfl
    | cons px offsets =>
      have htrim : trim (joinWith [' '] (px :: offsets ++ [shadowColor])) = shadowLine (px :: offsets) := trim_shadowLine hpixels
      have hne : (!(shadowLine (px :: offsets)).isEmpty) = true := by
        rw [shadowLine_cons]
        simp
      have hwhole : (bundled config).fallbacks.synthesize "box-shadow" value =
          .ok [("text-shadow".toList, shadowLine (px :: offsets))] := by
        rw [hsynthesized, List.isEmpty_cons, if_neg Bool.false_ne_true, Option.getD_some, htrim]
        exact congrArg Except.ok (List.filter_cons_of_pos hne)
      have hadmits : (bundled config).admits "box-shadow" "text-shadow" = true :=
        Bool.or_eq_true_iff.mpr (.inr boxShadow_support.2.2)
      have hwritten := substitutes_of_synthesize_singleton hwhole hadmits (translate_shadowLine hpixels)
        (not_blank_shadowLine _)
      exact Except.ok.inj (hpairs.symm.trans hwritten)

/--
A shadow of a box is reported, or it comes to one shadow of the text: the lengths at the beginning of its first layer in pixels, at most three of them, and a fixed color.
-/
theorem handle_boxShadow (hname : lower d.property = "box-shadow".toList) (hhandle : (bundled config).handle d = .ok h) :
    (h = .notImplemented "box-shadow" ∨
      ∃ numerals : List Text, 1 ≤ numerals.length ∧ numerals.length = min 3 (lengthTerms d.text).length ∧
        (∀ numeral ∈ numerals, IsNumeral numeral) ∧
        (numerals.map fun numeral => some (numeral ++ "px".toList)) =
          ((lengthTerms d.text).take 3).map (fun term => (value? term).map fillLeadingPoints) ∧
        h = .emitted [("text-shadow", joinWith [' '] (numerals.map (· ++ "px".toList) ++ ["rgba(0, 0, 0, 0.4)".toList]))]) ∧
      (h.pairs = [] ↔ (lengthTerms d.text).length = 0) ∧
      ∀ rules conv, (bundled config).convertRules rules = .ok conv →
        ∀ r ∈ rules, (bundled config).survives r = true → d ∈ r.declarations → h.pairs = [] →
          "box-shadow".toList ∈ conv.report.notImplemented := by
  obtain ⟨hknown, hother, -⟩ := boxShadow_support
  have hrenamed : renamed d.property = "box-shadow".toList := by
    rw [renamed, hname]
    rfl
  have hcustom : d.isCustom = false := by
    refine Bool.eq_false_iff.mpr fun hcustom => ?_
    obtain ⟨rest, hrest⟩ := List.isPrefixOf_iff_prefix.mp hcustom
    have hproperty : d.property = '-' :: '-' :: rest := hrest.symm
    rw [hproperty, lower_hyphens] at hname
    exact absurd (List.cons.inj hname).1 (by decide)
  rw [← hrenamed] at hknown hother
  have hunserved := (reported_of_handle hhandle).2
  rw [handle_other _ hcustom hknown hother, map_eq_ok, hrenamed] at hhandle
  obtain ⟨pairs, hpairs, rfl⟩ := hhandle
  obtain ⟨offsets, hoffsets, hpixels, rfl⟩ := substitutes_boxShadow hpairs
  have hlength : offsets.length = min 3 (lengthTerms d.text).length := by
    simpa using congrArg List.length hoffsets
  cases offsets with
  | nil =>
    refine ⟨.inl rfl, iff_of_true rfl ?_, fun rules conv hconv r hr hsurvives hd _ => ?_⟩
    · rw [List.length_nil] at hlength
      omega
    · refine ((reportsNames_of_convertRules hconv).notImplemented.mem_iff _).mpr ?_
      exact List.mem_flatMap.mpr ⟨r, List.mem_filter.mpr ⟨hr, hsurvives⟩, List.mem_filterMap.mpr ⟨d, hd, hunserved.symm⟩⟩
  | cons px offsets =>
    obtain ⟨numerals, hnumerals, hfilled⟩ := exists_numerals (isPixelText_map_fillLeadingPoints hpixels)
    have hcount : numerals.length = (px :: offsets).length := by
      simpa using (congrArg List.length hfilled).symm
    refine ⟨.inr ⟨numerals, ?_, hcount.trans hlength, hnumerals, ?_, ?_⟩, iff_of_false ?_ ?_, ?_⟩
    · rw [hcount, List.length_cons]
      omega
    · have hvalues := congrArg (List.map (Option.map fillLeadingPoints)) hoffsets
      have hwritten := congrArg (List.map some) hfilled
      simp only [List.map_map] at hvalues hwritten
      exact hwritten.symm.trans hvalues
    · rw [hfilled]
      rfl
    · intro hnone
      cases hnone
    · rw [List.length_cons] at hlength
      omega
    · intro rules conv hconv r hr hsurvives hd hnone
      cases hnone

/-- The layer that follows a comma is left out, as is the fourth length; the point gets its zero. -/
def cardShadow : Declaration := ⟨"Box-Shadow", Fragment.ofText? ".5px 0.25em 8PX 1px #000, 1px 1px", false⟩

theorem handle_cardShadow :
    (bundled .empty).handle cardShadow = .ok (.emitted [("text-shadow", "0.5px 4px 8px rgba(0, 0, 0, 0.4)")]) := by
  rw [bundled, Policy.bundled_eq]
  decide +kernel

theorem handle_boxShadow_cardShadow :
    lower cardShadow.property = "box-shadow".toList ∧
      (bundled .empty).handle cardShadow = .ok (.emitted [("text-shadow", "0.5px 4px 8px rgba(0, 0, 0, 0.4)")]) ∧
      (lengthTerms cardShadow.text).length = 4 ∧
      ∃ numerals : List Text, numerals.length = 3 ∧ (∀ numeral ∈ numerals, IsNumeral numeral) ∧
        "0.5px 4px 8px rgba(0, 0, 0, 0.4)".toList =
          joinWith [' '] (numerals.map (· ++ "px".toList) ++ ["rgba(0, 0, 0, 0.4)".toList]) := by
  have hname : lower cardShadow.property = "box-shadow".toList := by decide
  have hterms : (lengthTerms cardShadow.text).length = 4 := by decide +kernel
  refine ⟨hname, handle_cardShadow, hterms, ?_⟩
  rcases (handle_boxShadow hname handle_cardShadow).1 with hreported | ⟨numerals, -, hcount, hnumerals, -, hwritten⟩
  · cases hreported
  · rw [hterms] at hcount
    rw [Handling.emitted.injEq, List.cons.injEq, Prod.mk.injEq] at hwritten
    exact ⟨numerals, hcount, hnumerals, hwritten.1.2⟩

end Converter

end UiToolkit
