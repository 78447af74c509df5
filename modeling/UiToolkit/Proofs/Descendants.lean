import UiToolkit.Proofs.SelectorStability

/-!
# Descendant selectors

A blank between two selectors that belongs to neither makes them one selector, which is scanned, refused and rewritten as the two are. That the blank does not belong to the first one is seen without the second: no segment that ends in front of a blank looks behind it.
-/

namespace UiToolkit

namespace Text

theorem dropWhile_append_of_exists {p : Char → Bool} {s : Text} (h : ∃ c ∈ s, p c = false) (t : Text) :
    (s ++ t).dropWhile p = s.dropWhile p ++ t := by
  have hne : s.dropWhile p ≠ [] := by
    rw [ne_eq, List.dropWhile_eq_nil_iff]
    obtain ⟨c, hc, hp⟩ := h
    exact fun hall => Bool.false_ne_true (hp.symm.trans (hall c hc))
  rw [List.dropWhile_append, if_neg (by rwa [List.isEmpty_iff])]

theorem dropEndWhile_append_of_exists {p : Char → Bool} {t : Text} (h : ∃ c ∈ t, p c = false) (s : Text) :
    dropEndWhile p (s ++ t) = s ++ dropEndWhile p t := by
  obtain ⟨c, hc, hp⟩ := h
  rw [dropEndWhile, List.reverse_append, dropWhile_append_of_exists ⟨c, List.mem_reverse.mpr hc, hp⟩,
    List.reverse_append, List.reverse_reverse, dropEndWhile]

theorem trim_append_append {s t : Text} (hs : s ≠ []) (ht : t ≠ []) (hlast : ∀ c ∈ s.getLast?, isBlank c = false)
    (hhead : ∀ c ∈ t.head?, isBlank c = false) (middle : Text) :
    trim (s ++ (middle ++ t)) = trim s ++ (middle ++ trim t) := by
  obtain ⟨c, hc⟩ : ∃ c, s.getLast? = some c := ⟨_, List.getLast?_eq_some_getLast hs⟩
  obtain ⟨d, hd⟩ : ∃ d, t.head? = some d := ⟨_, List.head?_eq_some_head ht⟩
  have hfront : ∃ c ∈ s, isBlank c = false := ⟨c, List.mem_of_getLast? hc, hlast c hc⟩
  have hback : ∃ d ∈ t, isBlank d = false := ⟨d, List.mem_of_head? hd, hhead d hd⟩
  have hstart : t.dropWhile isBlank = t := by
    obtain ⟨ds, rfl⟩ := List.head?_eq_some_iff.mp hd
    rw [List.dropWhile_cons, hhead d rfl, if_neg Bool.false_ne_true]
  have hend : dropEndWhile isBlank (s.dropWhile isBlank) = s.dropWhile isBlank := by
    refine dropEndWhile_eq_self fun e he => hlast e ?_
    rw [← List.takeWhile_append_dropWhile (p := isBlank) (l := s), List.getLast?_append, Option.mem_def.mp he]
    rfl
  calc trim (s ++ (middle ++ t))
      = dropEndWhile isBlank (s.dropWhile isBlank ++ middle ++ t) := by
        rw [trim, trimWhile, dropWhile_append_of_exists hfront, List.append_assoc]
    _ = s.dropWhile isBlank ++ middle ++ dropEndWhile isBlank t := dropEndWhile_append_of_exists hback _
    _ = trim s ++ (middle ++ trim t) := by
        rw [trim, trim, trimWhile, trimWhile, hend, hstart, List.append_assoc]

end Text

namespace Segment

open Text

/-- The blank that makes two selectors one. -/
def blank : Segment := ⟨.whitespace, [' ']⟩

variable {A : List Segment} {s z : Text}

theorem head?_textOf_append_blank (A : List Segment) (z : Text) :
    (textOf (A ++ [blank]) ++ z).head? = (textOf (A ++ [blank]) ++ []).head? := by
  rw [textOf_append]
  cases textOf A <;> rfl

/-- Segments in front of a blank that belongs to none of them are scanned in the same way whatever comes behind the blank. -/
theorem scanned_append_blank (h : Scanned (A ++ [blank]) []) (hz : ∀ c ∈ z.head?, isBlank c = false) :
    Scanned (A ++ [blank]) z := by
  induction A with
  | nil => exact scanned_blank hz (scanned_nil z)
  | cons g A ih =>
    rw [List.cons_append] at h ⊢
    obtain ⟨⟨c, cs, htext, hopening⟩, hA⟩ := scanned_cons.mp h
    refine scanned_cons.mpr ⟨⟨c, cs, htext, ?_⟩, ih hA⟩
    by_cases hc : isBlank c = true
    · have hg : g.isSeparator = true := by
        unfold opening at hopening
        rw [if_pos hc] at hopening
        rw [isSeparator, ← (Prod.mk.inj hopening).1]
        rfl
      rcases separator_cases h hg with ⟨d, hd, rfl⟩ | ⟨d, ds, -, rfl, hall, hplain⟩
      · obtain ⟨rfl, -⟩ := List.cons.inj htext
        exact absurd hd (Bool.eq_false_iff.mp (isCombinator_of_isBlank hc))
      · obtain ⟨rfl, rfl⟩ := List.cons.inj htext
        exact opening_blanks hc hall (by rwa [head?_textOf_append_blank])
    · -- The segment ends in front of the blank, and what follows a blank is not looked at.
      have hrest : ∀ r, cs ++ (textOf (A ++ [blank]) ++ r) = cs ++ textOf A ++ ' ' :: r := by
        intro r
        rw [textOf_append, List.append_assoc, List.append_assoc]
        rfl
      have hseparated : ∀ r : Text, Separated (' ' :: r) := fun r d hd => .inl (by rw [← Option.some.inj hd]; decide)
      rw [hrest] at hopening ⊢
      rw [opening_append (Bool.eq_false_iff.mpr hc) (hseparated []) (hseparated z) (by rw [hopening]; simp) (by simp),
        hopening]

/-- A blank that belongs to no segment does not stand behind another one. -/
theorem endsPlain_of_scan (h : scan (s ++ [' ']) = scan s ++ [blank]) : EndsPlain s := by
  obtain ⟨w, hsplit, hw⟩ := exists_eq_dropEndWhile_append isBlank s
  have hplain : EndsPlain (dropEndWhile isBlank s) := by
    intro c hc
    rw [dropEndWhile, List.getLast?_reverse] at hc
    exact not_of_mem_head?_dropWhile hc
  have hblanks : ∀ c ∈ w ++ [' '], isBlank c = true :=
    List.forall_mem_append.mpr ⟨hw, List.forall_mem_singleton.mpr (by decide)⟩
  have hlast : ∀ B : List Segment, Scanned B [] → textOf B = dropEndWhile isBlank s ++ (w ++ [' ']) →
      B.getLast? = some blank := by
    intro B hB htext
    rw [← List.append_assoc, ← hsplit] at htext
    rw [← hB.scan_eq, htext, h, List.getLast?_concat]
  rcases scanned_append_blanks hblanks (by simp) (scanned_scan _) (by rwa [textOf_scan]) with
    hscanned | ⟨B, g, hB, hopen, hscanned⟩
  · have hend := hlast _ hscanned (by simp [textOf_scan])
    rw [List.getLast?_concat, blank, Option.some.injEq, Segment.mk.injEq] at hend
    have hnil : w = [] := by simpa using hend.2
    rwa [hsplit, hnil, List.append_nil]
  · have htext := congrArg textOf hB
    rw [textOf_scan, textOf_append, textOf_cons, textOf_nil, List.append_nil] at htext
    have hend := hlast _ hscanned (by simp [htext])
    rw [List.getLast?_concat, blank, Option.some.injEq, Segment.mk.injEq] at hend
    rcases hopen.kind with hkind | hkind | hkind <;> rw [hkind] at hend <;> cases hend.1

theorem scan_append_blank (h : scan (s ++ [' ']) = scan s ++ [blank]) (hz : ∀ c ∈ z.head?, isBlank c = false) :
    scan (s ++ ' ' :: z) = scan s ++ blank :: scan z := by
  have hsource : textOf (scan s ++ [blank]) = s ++ [' '] := by
    rw [textOf_append, textOf_scan]
    rfl
  have hscanned : Scanned (scan s ++ [blank]) [] := by
    rw [Scanned, hsource, List.append_nil, h, scan_nil, List.append_nil]
  have hscan : scan (textOf (scan s ++ [blank]) ++ z) = scan s ++ [blank] ++ scan z := scanned_append_blank hscanned hz
  rwa [hsource, List.append_assoc, List.append_assoc] at hscan

end Segment

namespace Selector

open Text Segment

variable {policy : Policy} {a b : Text}

theorem refusal?_isBreaking_iff {s : Selector} :
    (s.refusal? policy).any Refusal.isBreaking = true ↔ ∃ word ∈ words s.raw, policy.breakingMatch? word ≠ none := by
  have hother : (s.segments.findSome? Segment.refusal?).any Refusal.isBreaking = false := by
    cases hfind : s.segments.findSome? Segment.refusal? with
    | none => rfl
    | some refusal =>
      obtain ⟨g, -, hg⟩ := List.exists_of_findSome?_eq_some hfind
      unfold Segment.refusal? at hg
      split at hg
      · rw [← Option.some.inj hg]
        rfl
      · split at hg
        · rw [← Option.some.inj hg]
          split <;> rfl
        · cases hg
  rw [refusal?]
  cases hfind : (words s.raw).findSome? policy.breakingMatch? with
  | none =>
    rw [List.findSome?_eq_none_iff] at hfind
    simp only [hother, Bool.false_eq_true, false_iff, not_exists, not_and, not_not]
    exact hfind
  | some fragment =>
    obtain ⟨word, hword, hmatch⟩ := List.exists_of_findSome?_eq_some hfind
    exact iff_of_true rfl ⟨word, hword, by rw [hmatch]; exact Option.some_ne_none fragment⟩

/-- The text that is written for a selector begins and ends as the selector does, blanks or not. -/
theorem rewritten_append_blank (ha : a ≠ []) (hb : b ≠ []) (hlast : EndsPlain a) (hhead : ∀ c ∈ b.head?, isBlank c = false)
    (hscan : scan (a ++ ' ' :: b) = scan a ++ blank :: scan b) :
    (ofText (a ++ ' ' :: b)).rewritten = (ofText a).rewritten ++ ' ' :: (ofText b).rewritten := by
  have hmarks : ∀ s : Text, firstMarks (rewriting (scan s)) = firstMarks s := by
    intro s
    rw [firstMarks_rewriting (scanned_scan s), textOf_scan]
  have hne : ∀ s : Text, s ≠ [] → rewriting (scan s) ≠ [] := by
    intro s hs hnil
    obtain ⟨c, cs, rfl⟩ := List.exists_cons_of_ne_nil hs
    have hmark := hmarks (c :: cs)
    rw [hnil] at hmark
    cases hmark
  have hplain : EndsPlain (rewriting (scan a)) := endsPlain_rewriting (scanned_scan a) (by rwa [textOf_scan])
  have hstart : ∀ c ∈ (rewriting (scan b)).head?, isBlank c = false := by
    intro c hc
    have hmark := hmarks b
    rw [firstMarks, Option.mem_def.mp hc, firstMarks] at hmark
    obtain ⟨d, hd, heq⟩ := Option.map_eq_some_iff.mp hmark.symm
    rw [← (Prod.mk.inj heq).1, hhead d hd]
  calc trim (rewriting (scan (a ++ ' ' :: b)))
      = trim (rewriting (scan a) ++ ([' '] ++ rewriting (scan b))) := by
        rw [hscan, rewriting_append_separator rfl]
        rfl
    _ = trim (rewriting (scan a)) ++ ([' '] ++ trim (rewriting (scan b))) :=
        trim_append_append (hne a ha) (hne b hb) hplain hstart [' ']

/--
A blank that belongs to neither of two selectors makes them one selector. It meets the denylist when one of them does, is accepted when both are, and is then written as the two are, with a blank between them.
-/
theorem rewrite_descendant (ha : isBlankText a = false) (hb : isBlankText b = false) (hhead : ∀ c ∈ b.head?, isBlank c = false)
    (hblank : scan (a ++ [' ']) = scan a ++ [⟨.whitespace, [' ']⟩]) :
    scan (a ++ ' ' :: b) = scan a ++ ⟨.whitespace, [' ']⟩ :: scan b ∧
      (((ofText (a ++ ' ' :: b)).refusal? policy).any Refusal.isBreaking = true ↔
        ((ofText a).refusal? policy).any Refusal.isBreaking = true ∨
          ((ofText b).refusal? policy).any Refusal.isBreaking = true) ∧
      ∀ text, (ofText (a ++ ' ' :: b)).rewrite policy = .ok text ↔
        ∃ s t, (ofText a).rewrite policy = .ok s ∧ (ofText b).rewrite policy = .ok t ∧ text = s ++ ' ' :: t := by
  have hne : ∀ s : Text, isBlankText s = false → s ≠ [] := by
    rintro s hs rfl
    cases hs
  have hscan : scan (a ++ ' ' :: b) = scan a ++ blank :: scan b := scan_append_blank hblank hhead
  have hwords : words (a ++ ' ' :: b) = words a ++ words b := words_append_cons (by decide) a b
  have hrewritten := rewritten_append_blank (hne a ha) (hne b hb) (endsPlain_of_scan hblank) hhead hscan
  have haccepted : (ofText (a ++ ' ' :: b)).refusal? policy = none ↔
      (ofText a).refusal? policy = none ∧ (ofText b).refusal? policy = none := by
    simp only [refusal?_eq_none_iff, ofText, hwords, hscan, List.forall_mem_append, List.forall_mem_cons]
    have hblank : blank.refusal? = none := rfl
    tauto
  refine ⟨hscan, ?_, fun text => ⟨fun h => ?_, ?_⟩⟩
  · simp only [refusal?_isBreaking_iff, ofText, hwords, List.mem_append]
    constructor
    · rintro ⟨word, hword | hword, hmatch⟩
      · exact .inl ⟨word, hword, hmatch⟩
      · exact .inr ⟨word, hword, hmatch⟩
    · rintro (⟨word, hword, hmatch⟩ | ⟨word, hword, hmatch⟩)
      · exact ⟨word, .inl hword, hmatch⟩
      · exact ⟨word, .inr hword, hmatch⟩
  · obtain ⟨hnone, htext⟩ := rewrite_eq_ok h
    obtain ⟨hnoneA, hnoneB⟩ := haccepted.mp hnone
    exact ⟨_, _, rewrite_of_refusal?_eq_none hnoneA, rewrite_of_refusal?_eq_none hnoneB, by rw [← htext, hrewritten]⟩
  · rintro ⟨s, t, hs, ht, rfl⟩
    obtain ⟨hnoneA, rfl⟩ := rewrite_eq_ok hs
    obtain ⟨hnoneB, rfl⟩ := rewrite_eq_ok ht
    rw [rewrite_of_refusal?_eq_none (haccepted.mpr ⟨hnoneA, hnoneB⟩), hrewritten]

/-- Blanks at the outer ends are left out, one of them behind a bracket that stays open. -/
theorem rewrite_descendant_openBracket :
    scan (" input[type='checkbox'] > body".toList ++ [' ']) =
        scan " input[type='checkbox'] > body" ++ [⟨.whitespace, [' ']⟩] ∧
      (ofText (" input[type='checkbox'] > body".toList ++ ' ' :: "p.item[x ".toList)).rewrite Policy.bundled =
        .ok ("Toggle > :root".toList ++ ' ' :: "Label.item[x".toList) := by
  have hblank : scan (" input[type='checkbox'] > body".toList ++ [' ']) =
      scan " input[type='checkbox'] > body" ++ [⟨.whitespace, [' ']⟩] := by decide +kernel
  have hhead : ∀ c ∈ List.head? ("p.item[x " : Text), isBlank c = false := by
    intro c hc
    obtain rfl : 'p' = c := Option.some.inj hc
    decide
  obtain ⟨-, -, haccepted⟩ := @rewrite_descendant Policy.bundled _ "p.item[x " (by decide) (by decide) hhead hblank
  exact ⟨hblank, (haccepted _).mpr ⟨_, _, by decide +kernel, by decide +kernel, rfl⟩⟩

end Selector

end UiToolkit
