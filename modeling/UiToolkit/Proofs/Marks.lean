import UiToolkit.Proofs.Parts
import UiToolkit.Proofs.WellFormedness

/-!
# Marks of importance

A mark of importance at the end of a value becomes a flag when the value is read. There is one place where such a mark can begin, at the last exclamation mark, so whether a text ends with one is not changed by what stands before that, nor by blanks at the ends. One mark is taken, so the text of a value that repeats it still ends with one.
-/

namespace UiToolkit

open Text

/-! ### Marks at the end of a text -/

namespace Text

/-- An exclamation mark and the word `important` in any case, with any blanks after both. -/
def IsMark (s : Text) : Prop :=
  ∃ gap word rest, s = '!' :: (gap ++ (word ++ rest)) ∧ isBlankText gap = true ∧
    List.Forall₂ (fun letter c => isLetterAnyCase letter c = true) "important".toList word ∧ isBlankText rest = true

def EndsWithMark (s : Text) : Prop := ∃ front mark, s = front ++ mark ∧ IsMark mark

/-- What stands before the mark ends with a mark again. -/
def RepeatsMark (s : Text) : Prop := ∃ front mark, s = front ++ mark ∧ IsMark mark ∧ EndsWithMark front

/-- The characters of a mark after the exclamation mark. -/
def isMarkChar (c : Char) : Bool := isBlank c || "important".toList.any (isLetterAnyCase · c)

theorem startsWithAnyCase_iff {word s : Text} :
    startsWithAnyCase word s = true ↔
      List.Forall₂ (fun letter c => isLetterAnyCase letter c = true) word (s.take word.length) := by
  induction word generalizing s with
  | nil => simp [startsWithAnyCase]
  | cons letter word ih =>
    cases s with
    | nil => simp [startsWithAnyCase]
    | cons c s =>
      rw [startsWithAnyCase, Bool.and_eq_true, ih, List.length_cons, List.take_succ_cons, List.forall₂_cons]

theorem not_isBlank_of_isLetter {letter c : Char} (hletter : letter ∈ "important".toList)
    (hc : isLetterAnyCase letter c = true) : isBlank c = false := by
  refine Bool.eq_false_iff.mpr fun hblank => ?_
  have hnone := forall_blank (p := fun c => "important".toList.all fun letter => !isLetterAnyCase letter c) (by decide) hblank
  simpa [hc] using List.all_eq_true.mp hnone letter hletter

end Text

namespace Declaration

theorem isImportanceTail_iff {s : Text} : isImportanceTail s = true ↔ IsMark ('!' :: s) := by
  have hlength : "important".length = "important".toList.length := rfl
  rw [isImportanceTail, Bool.and_eq_true, startsWithAnyCase_iff, hlength]
  constructor
  · rintro ⟨hword, hrest⟩
    refine ⟨s.takeWhile isBlank, _, _, ?_, List.all_eq_true.mpr fun c => List.mem_takeWhile_imp, hword, hrest⟩
    rw [List.take_append_drop, List.takeWhile_append_dropWhile]
  · rintro ⟨gap, word, rest, heq, hgap, hword, hrest⟩
    obtain rfl := List.cons.inj heq |>.2
    have hvisible : (word ++ rest).dropWhile isBlank = word ++ rest := by
      cases hword with
      | cons hletter _ =>
        rw [List.cons_append, List.dropWhile_cons, not_isBlank_of_isLetter (by decide) hletter, if_neg Bool.false_ne_true]
    rw [List.dropWhile_append_of_pos (List.all_eq_true.mp hgap), hvisible, hword.length_eq, List.take_left, List.drop_left]
    exact ⟨hword, hrest⟩

theorem isMarkChar_of_isImportanceTail {s : Text} (h : isImportanceTail s = true) : ∀ c ∈ s, isMarkChar c = true := by
  rw [isImportanceTail, Bool.and_eq_true] at h
  intro c hc
  rw [← List.takeWhile_append_dropWhile (p := isBlank) (l := s),
    ← List.take_append_drop "important".length (s.dropWhile isBlank)] at hc
  rw [isMarkChar, Bool.or_eq_true]
  rcases List.mem_append.mp hc with hgap | hc
  · exact .inl (List.mem_takeWhile_imp hgap)
  · rcases List.mem_append.mp hc with hword | hrest
    · exact .inr (List.any_eq_true.mpr (Pixels.mem_take_of_startsWithAnyCase h.1 hword))
    · exact .inl (List.all_eq_true.mp h.2 c hrest)

theorem isImportanceTail_eq_false {s : Text} (h : ∃ c ∈ s, isMarkChar c = false) : isImportanceTail s = false := by
  obtain ⟨c, hc, hbreaks⟩ := h
  refine Bool.eq_false_iff.mpr fun htail => ?_
  rw [isMarkChar_of_isImportanceTail htail c hc] at hbreaks
  cases hbreaks

/-- The text before a mark, which is the only one that ends there. -/
theorem beforeImportance?_eq_some_iff {s front : Text} :
    beforeImportance? s = some front ↔ ∃ mark, s = front ++ mark ∧ IsMark mark := by
  constructor
  · intro h
    induction s generalizing front with
    | nil => cases h
    | cons c s ih =>
      rw [beforeImportance?] at h
      split at h
      · rename_i hmark
        obtain ⟨hc, htail⟩ := Bool.and_eq_true_iff.mp hmark
        cases h
        exact ⟨c :: s, rfl, beq_iff_eq.mp hc ▸ isImportanceTail_iff.mp htail⟩
      · obtain ⟨front, hfront, rfl⟩ := Option.map_eq_some_iff.mp h
        obtain ⟨mark, rfl, hmark⟩ := ih hfront
        exact ⟨mark, rfl, hmark⟩
  · rintro ⟨mark, rfl, hmark⟩
    induction front with
    | nil =>
      obtain ⟨gap, word, rest, rfl, -⟩ := id hmark
      rw [List.nil_append, beforeImportance?, isImportanceTail_iff.mpr hmark]
      rfl
    | cons c front ih =>
      -- No mark begins earlier, for it would take in the exclamation mark of this one.
      have htail : isImportanceTail (front ++ mark) = false := by
        obtain ⟨gap, word, rest, rfl, -⟩ := hmark
        exact isImportanceTail_eq_false ⟨'!', List.mem_append_right front List.mem_cons_self, by decide⟩
      rw [List.cons_append, beforeImportance?, htail, Bool.and_false, if_neg Bool.false_ne_true, ih]
      rfl

theorem isSome_beforeImportance?_iff {s : Text} : (beforeImportance? s).isSome = true ↔ EndsWithMark s := by
  rw [Option.isSome_iff_exists]
  exact exists_congr fun _ => beforeImportance?_eq_some_iff

end Declaration

namespace Text

open Declaration

variable {s t : Text}

instance (s : Text) : Decidable (EndsWithMark s) := decidable_of_iff _ isSome_beforeImportance?_iff

theorem repeatsMark_iff : RepeatsMark s ↔ ∃ front, beforeImportance? s = some front ∧ EndsWithMark front := by
  constructor
  · rintro ⟨front, mark, hs, hmark, hfront⟩
    exact ⟨front, beforeImportance?_eq_some_iff.mpr ⟨mark, hs, hmark⟩, hfront⟩
  · rintro ⟨front, hs, hfront⟩
    obtain ⟨mark, hs, hmark⟩ := beforeImportance?_eq_some_iff.mp hs
    exact ⟨front, mark, hs, hmark, hfront⟩

theorem not_endsWithMark_nil : ¬EndsWithMark [] := by decide

theorem endsWithMark_cons {c : Char} : EndsWithMark (c :: s) ↔ (c = '!' ∧ isImportanceTail s = true) ∨ EndsWithMark s := by
  rw [← isSome_beforeImportance?_iff, ← isSome_beforeImportance?_iff, beforeImportance?]
  split
  · rename_i hmark
    rw [Bool.and_eq_true, beq_iff_eq] at hmark
    exact iff_of_true rfl (.inl hmark)
  · rename_i hmark
    rw [Bool.and_eq_true, beq_iff_eq] at hmark
    rw [Option.isSome_map, or_iff_right hmark]

/-- Only what follows the last exclamation mark counts. -/
theorem endsWithMark_append {u : Text} (hu : '!' ∉ u) : EndsWithMark (u ++ s) ↔ EndsWithMark s := by
  induction u with
  | nil => rfl
  | cons c u ih =>
    obtain ⟨hc, hu⟩ := not_or.mp (List.mem_cons.not.mp hu)
    rw [List.cons_append, endsWithMark_cons, ih hu, or_iff_right fun h => hc h.1.symm]

theorem not_endsWithMark (hs : '!' ∉ s) : ¬EndsWithMark s := by
  rw [← List.append_nil s, endsWithMark_append hs]
  exact not_endsWithMark_nil

theorem exclamation_not_mem_of_isBlank {b : Text} (hb : ∀ c ∈ b, isBlank c = true) : '!' ∉ b := by
  intro hmem
  exact absurd (hb '!' hmem) (by decide)

theorem isImportanceTail_append_blank {b : Text} (hb : ∀ c ∈ b, isBlank c = true) (s : Text) :
    isImportanceTail (s ++ b) = isImportanceTail s := by
  rw [isImportanceTail, isImportanceTail, List.dropWhile_append]
  cases hdrop : s.dropWhile isBlank with
  | nil =>
    rw [List.isEmpty_nil, if_pos rfl, List.dropWhile_eq_nil_iff.mpr hb]
  | cons c cs =>
    rw [List.isEmpty_cons, if_neg Bool.false_ne_true]
    have hword : startsWithAnyCase "important" (c :: cs ++ b) = startsWithAnyCase "important" (c :: cs) := by
      rw [Bool.eq_iff_iff]
      refine ⟨Piece.startsWithAnyCase_of_append fun d hd letter hletter => ?_, fun h => ?_⟩
      · refine Bool.eq_false_iff.mpr fun hcase => ?_
        have hblank := hb d (List.mem_of_head? hd)
        rw [not_isBlank_of_isLetter hletter hcase] at hblank
        cases hblank
      · have hlong := startsWithAnyCase_append h (length_le_of_startsWithAnyCase h) b
        rwa [List.take_length] at hlong
    have hrest : isBlankText (b.drop ("important".length - (c :: cs).length)) = true :=
      List.all_eq_true.mpr fun d hd => hb d (List.mem_of_mem_drop hd)
    rw [hword, List.drop_append, isBlankText, List.all_append]
    rw [isBlankText] at hrest
    rw [hrest, Bool.and_true]
    rfl

theorem endsWithMark_append_blank {b : Text} (hb : ∀ c ∈ b, isBlank c = true) : EndsWithMark (s ++ b) ↔ EndsWithMark s := by
  induction s with
  | nil => exact iff_of_false (not_endsWithMark (exclamation_not_mem_of_isBlank hb)) not_endsWithMark_nil
  | cons c s ih => rw [List.cons_append, endsWithMark_cons, endsWithMark_cons, isImportanceTail_append_blank hb, ih]

theorem endsWithMark_trim (s : Text) : EndsWithMark (trim s) ↔ EndsWithMark s := by
  obtain ⟨a, b, hs, ha, hb⟩ := exists_eq_trim s
  calc EndsWithMark (trim s)
      ↔ EndsWithMark (trim s ++ b) := (endsWithMark_append_blank hb).symm
    _ ↔ EndsWithMark (a ++ (trim s ++ b)) := (endsWithMark_append (exclamation_not_mem_of_isBlank ha)).symm
    _ ↔ EndsWithMark s := by rw [← hs]

end Text

/-! ### Marks that are read -/

namespace Declaration

variable {p : Text × Text} {d : Declaration}

theorem important_iff (h : IsOf p d) : d.important = true ↔ EndsWithMark p.2 := by
  rw [h.2.2, splitImportance, ← isSome_beforeImportance?_iff]
  cases beforeImportance? p.2 <;> simp

theorem exists_front (h : IsOf p d) :
    ∃ front, d.text = trim front ∧ (p.2 = front ∧ ¬EndsWithMark p.2 ∨ ∃ mark, p.2 = front ++ mark ∧ IsMark mark) := by
  rw [h.2.1, splitImportance]
  cases hbefore : beforeImportance? p.2 with
  | none =>
    refine ⟨p.2, rfl, .inl ⟨rfl, ?_⟩⟩
    rw [← isSome_beforeImportance?_iff, hbefore]
    exact Bool.false_ne_true
  | some front => exact ⟨front, trim_trim front, .inr (beforeImportance?_eq_some_iff.mp hbefore)⟩

/-- Of the marks at the end of a value, the last is taken. -/
theorem endsWithMark_text_iff (h : IsOf p d) : EndsWithMark d.text ↔ RepeatsMark p.2 := by
  obtain ⟨front, htext, hfront⟩ := exists_front h
  rw [htext, endsWithMark_trim]
  rcases hfront with ⟨rfl, hnone⟩ | hmark
  · refine iff_of_false hnone ?_
    rintro ⟨front, mark, hvalue, hmark, -⟩
    exact hnone ⟨front, mark, hvalue, hmark⟩
  · rw [repeatsMark_iff, beforeImportance?_eq_some_iff.mpr hmark]
    simp

end Declaration

end UiToolkit
