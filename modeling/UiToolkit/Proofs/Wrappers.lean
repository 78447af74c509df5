import Mathlib.Data.List.Flatten
import UiToolkit.Html.Style
import UiToolkit.Proofs.Seams

/-!
# Wrappers of style sheets

The style sheet of an element may stand in comments and in character data sections. One pass drops the closed comments, and a second one puts the contents of closed sections in their place. A pass does not look at what it has put together, so there may be wrappers in what is left: markers whose characters come from both sides of something that was taken off, and openers that stood inside a section. There are no others.
-/

namespace UiToolkit

namespace Html

open Text

/-- What a style sheet may stand in, from an opening to a closing marker. -/
structure Wrapper where
  opener : Text
  closer : Text
  opener_ne : opener ≠ []
  closer_ne : closer ≠ []

namespace Wrapper

def comment : Wrapper := ⟨"<!--", "-->", by decide, by decide⟩

def dataSection : Wrapper := ⟨"<![CDATA[", "]]>", by decide, by decide⟩

/-- There is a complete wrapper in the text: an opener, and a closer somewhere behind it. -/
def Occurs (w : Wrapper) (s : Text) : Prop := ∃ before rest, s = before ++ (w.opener ++ rest) ∧ w.closer <:+: rest

/-- The contents of the closed wrapper that the text starts with, up to the first closer. -/
def contents? (w : Wrapper) (s : Text) : Option Text :=
  if w.opener.isPrefixOf s then (splitOnce? w.closer (s.drop w.opener.length)).map Prod.fst else none

/-- One more character in front of the first wrapper. -/
def addFirst (c : Char) : List (Text × Text) × Text → List (Text × Text) × Text
  | ([], rest) => ([], c :: rest)
  | ((outside, inside) :: found, rest) => ((c :: outside, inside) :: found, rest)

/-- The closed wrappers that are found from left to right, each as the text in front of it and its contents, and the text behind the last one. -/
def scan (w : Wrapper) : Text → List (Text × Text) × Text
  | [] => ([], [])
  | c :: cs =>
    match w.contents? (c :: cs) with
    | some inside =>
      let later := scan w (cs.drop (w.opener.length - 1 + inside.length + w.closer.length))
      (([], inside) :: later.1, later.2)
    | none => addFirst c (scan w cs)
termination_by s => s.length
decreasing_by all_goals simp +arith

/-- The runs of text between the wrappers. -/
def outsides (w : Wrapper) (s : Text) : List Text := (w.scan s).1.map Prod.fst ++ [(w.scan s).2]

/-- All of the text, with the markers of the wrappers by themselves. -/
def marked (w : Wrapper) (found : List (Text × Text) × Text) : List Text :=
  (found.1.flatMap fun (outside, inside) => [outside, w.opener, inside, w.closer]) ++ [found.2]

/-- The texts in front of wrappers and their contents, in turn, and the text behind the last one. -/
def pieces (found : List (Text × Text) × Text) : List Text :=
  (found.1.flatMap fun (outside, inside) => [outside, inside]) ++ [found.2]

/-- The runs of text between the wrappers and their contents, in turn. -/
def runs (w : Wrapper) (s : Text) : List Text := pieces (w.scan s)

variable {w : Wrapper} {s : Text}

theorem eq_of_contents? {inside : Text} (h : w.contents? s = some inside) :
    ∃ rest, s = w.opener ++ (inside ++ (w.closer ++ rest)) := by
  rw [contents?] at h
  split at h
  · rename_i hstarts
    obtain ⟨behind, rfl⟩ := List.isPrefixOf_iff_prefix.mp hstarts
    rw [List.drop_left] at h
    obtain ⟨⟨_, rest⟩, hsplit, rfl⟩ := Option.map_eq_some_iff.mp h
    exact ⟨rest, by rw [eq_append_of_splitOnce? hsplit]⟩
  · cases h

theorem contents?_eq_none_iff : w.contents? s = none ↔ ∀ rest, s = w.opener ++ rest → ¬w.closer <:+: rest := by
  rw [contents?]
  split
  · rename_i hstarts
    obtain ⟨behind, rfl⟩ := List.isPrefixOf_iff_prefix.mp hstarts
    rw [List.drop_left, Option.map_eq_none_iff, splitOnce?_eq_none_iff w.closer_ne]
    constructor
    · intro h rest heq
      rwa [← (List.append_cancel_left heq)]
    · exact fun h => h behind rfl
  · rename_i hstarts
    refine iff_of_true rfl fun rest heq => absurd ?_ hstarts
    exact List.isPrefixOf_iff_prefix.mpr ⟨rest, heq.symm⟩

theorem drop_of_contents? {c : Char} {cs inside rest : Text} (h : c :: cs = w.opener ++ (inside ++ (w.closer ++ rest))) :
    cs.drop (w.opener.length - 1 + inside.length + w.closer.length) = rest := by
  obtain ⟨d, opener, hopener⟩ := List.exists_cons_of_ne_nil w.opener_ne
  rw [hopener, List.cons_append] at h
  rw [(List.cons.inj h).2, hopener, List.length_cons, Nat.add_sub_cancel, ← List.append_assoc, ← List.append_assoc,
    ← List.length_append, ← List.length_append, List.drop_left]

/-- A text is nothing, begins with a closed wrapper, or begins with a character at which there is none. -/
theorem wrapper_induction (w : Wrapper) {motive : Text → Prop} (nil : motive [])
    (wrapper : ∀ c cs inside rest, c :: cs = w.opener ++ (inside ++ (w.closer ++ rest)) →
      w.contents? (c :: cs) = some inside → motive rest → motive (c :: cs))
    (char : ∀ c cs, w.contents? (c :: cs) = none → motive cs → motive (c :: cs)) (s : Text) : motive s := by
  induction hlength : s.length using Nat.strongRecOn generalizing s with
  | ind n ih =>
    cases s with
    | nil => exact nil
    | cons c cs =>
      cases hcontents : w.contents? (c :: cs) with
      | none => exact char c cs hcontents (ih cs.length (by simp [← hlength]) cs rfl)
      | some inside =>
        obtain ⟨rest, hrest⟩ := eq_of_contents? hcontents
        have hshorter : rest.length < n := by
          have hpos := List.length_pos_of_ne_nil w.opener_ne
          rw [← hlength, hrest]
          simp only [List.length_append]
          omega
        exact wrapper c cs inside rest hrest hcontents (ih rest.length hshorter rest rfl)

theorem scan_nil (w : Wrapper) : w.scan [] = ([], []) := by rw [scan]

theorem scan_of_contents? {inside rest : Text} {c : Char} {cs : Text} (h : w.contents? (c :: cs) = some inside)
    (hrest : c :: cs = w.opener ++ (inside ++ (w.closer ++ rest))) :
    w.scan (c :: cs) = (([], inside) :: (w.scan rest).1, (w.scan rest).2) := by
  rw [scan, h]
  simp only [drop_of_contents? hrest]

theorem scan_of_none {c : Char} {cs : Text} (h : w.contents? (c :: cs) = none) : w.scan (c :: cs) = addFirst c (w.scan cs) := by
  rw [scan, h]

theorem flatten_outsides_addFirst (c : Char) (found : List (Text × Text) × Text) :
    ((addFirst c found).1.map Prod.fst ++ [(addFirst c found).2]).flatten = c :: (found.1.map Prod.fst ++ [found.2]).flatten := by
  obtain ⟨_ | ⟨_, pairs⟩, rest⟩ := found <;> rfl

theorem flatten_pieces_addFirst (c : Char) (found : List (Text × Text) × Text) :
    (pieces (addFirst c found)).flatten = c :: (pieces found).flatten := by
  obtain ⟨_ | ⟨_, pairs⟩, rest⟩ := found <;> rfl

theorem marked_cons (w : Wrapper) (outside inside : Text) (pairs : List (Text × Text)) (rest : Text) :
    w.marked ((outside, inside) :: pairs, rest) = outside :: w.opener :: inside :: w.closer :: w.marked (pairs, rest) := rfl

theorem flatten_marked_scan (w : Wrapper) (s : Text) : (w.marked (w.scan s)).flatten = s := by
  induction s using w.wrapper_induction with
  | nil => rw [scan_nil]; rfl
  | wrapper c cs inside rest hrest hcontents ih =>
    rw [scan_of_contents? hcontents hrest, marked_cons, hrest]
    simp [ih]
  | char c cs hcontents ih =>
    rw [scan_of_none hcontents]
    generalize w.scan cs = found at ih
    obtain ⟨_ | ⟨_, pairs⟩, rest⟩ := found <;> exact congrArg (c :: ·) ih

/-- No opener stands in front of a wrapper that is found, for it would have been found first. -/
theorem not_infix_outside (w : Wrapper) (s : Text) : ∀ pair ∈ (w.scan s).1, ¬w.opener <:+: pair.1 := by
  induction s using w.wrapper_induction with
  | nil => rw [scan_nil]; exact nofun
  | wrapper c cs inside rest hrest hcontents ih =>
    rw [scan_of_contents? hcontents hrest]
    exact List.forall_mem_cons.mpr ⟨fun hinfix => w.opener_ne (List.eq_nil_of_infix_nil hinfix), ih⟩
  | char c cs hcontents ih =>
    have hall := w.flatten_marked_scan cs
    rw [scan_of_none hcontents]
    generalize w.scan cs = found at ih hall
    obtain ⟨_ | ⟨⟨outside, inside⟩, pairs⟩, rest⟩ := found
    · exact nofun
    · obtain ⟨hfirst, hpairs⟩ := List.forall_mem_cons.mp ih
      refine List.forall_mem_cons.mpr ⟨fun hinfix => ?_, hpairs⟩
      rcases List.infix_cons_iff.mp hinfix with ⟨z, hz⟩ | hinfix
      · have hz : w.opener ++ z = c :: outside := hz
        simp only [marked_cons, List.flatten_cons] at hall
        obtain ⟨tail, rfl⟩ : ∃ tail, cs = outside ++ (w.opener ++ (inside ++ (w.closer ++ tail))) := ⟨_, hall.symm⟩
        refine contents?_eq_none_iff.mp hcontents (z ++ (w.opener ++ (inside ++ (w.closer ++ tail)))) ?_ ?_
        · rw [← List.cons_append, ← hz, List.append_assoc]
        · exact ⟨z ++ (w.opener ++ inside), tail, by simp only [List.append_assoc]⟩
      · exact hfirst hinfix

theorem not_occurs_rest (w : Wrapper) (s : Text) : ¬w.Occurs (w.scan s).2 := by
  induction s using w.wrapper_induction with
  | nil =>
    rw [scan_nil]
    rintro ⟨before, rest, hnil, -⟩
    exact w.opener_ne (List.append_eq_nil_iff.mp (List.append_eq_nil_iff.mp hnil.symm).2).1
  | wrapper c cs inside rest hrest hcontents ih => rwa [scan_of_contents? hcontents hrest]
  | char c cs hcontents ih =>
    have hall := w.flatten_marked_scan cs
    rw [scan_of_none hcontents]
    generalize w.scan cs = found at ih hall
    obtain ⟨_ | ⟨_, pairs⟩, rest⟩ := found
    · have hall : rest = cs := by simpa [marked] using hall
      subst hall
      rintro ⟨before, behind, hsplit, hcloser⟩
      cases before with
      | nil => exact contents?_eq_none_iff.mp hcontents behind hsplit hcloser
      | cons d before => exact ih ⟨before, behind, (List.cons.inj hsplit).2, hcloser⟩
    · exact ih

/-! ### What a pass puts together -/

/-- An opener stands among the pieces, or is put together from several, and there is a closer behind it. -/
theorem occurs_flatten_iff (w : Wrapper) (pieces : List Text) :
    w.Occurs pieces.flatten ↔
      (∃ front x y back, pieces = front ++ (x ++ (w.opener ++ y)) :: back ∧ w.closer <:+: y ++ back.flatten) ∨
        ∃ before rest, Crosses pieces before w.opener rest ∧ w.closer <:+: rest := by
  constructor
  · rintro ⟨before, rest, hsplit, hcloser⟩
    rcases inside_or_crosses w.opener_ne hsplit with ⟨front, x, y, back, rfl, -, rfl⟩ | hcrosses
    · exact .inl ⟨front, x, y, back, rfl, hcloser⟩
    · exact .inr ⟨before, rest, hcrosses, hcloser⟩
  · rintro (⟨front, x, y, back, rfl, hcloser⟩ | ⟨before, rest, hcrosses, hcloser⟩)
    · exact ⟨front.flatten ++ x, y ++ back.flatten, by simp, hcloser⟩
    · exact ⟨before, rest, hcrosses.flatten_eq, hcloser⟩

/-- When wrappers are dropped, others are left only if their openers are put together. -/
theorem occurs_outsides_iff (w : Wrapper) (s : Text) :
    w.Occurs (w.outsides s).flatten ↔ ∃ before rest, Crosses (w.outsides s) before w.opener rest ∧ w.closer <:+: rest := by
  rw [occurs_flatten_iff, or_iff_right]
  rintro ⟨front, x, y, back, hpieces, hcloser⟩
  rw [outsides] at hpieces
  rcases List.eq_nil_or_concat back with rfl | ⟨back, last, rfl⟩
  · obtain ⟨-, hlast⟩ := List.append_inj' hpieces rfl
    apply w.not_occurs_rest s
    rw [List.singleton_inj.mp hlast]
    rw [List.flatten_nil, List.append_nil] at hcloser
    exact ⟨x, y, rfl, hcloser⟩
  · have hpairs : (w.scan s).1.map Prod.fst = front ++ (x ++ (w.opener ++ y)) :: back := by
      rw [List.concat_eq_append, ← List.cons_append, ← List.append_assoc] at hpieces
      exact (List.append_inj' hpieces rfl).1
    have hmem : x ++ (w.opener ++ y) ∈ (w.scan s).1.map Prod.fst := by
      rw [hpairs]
      simp
    obtain ⟨pair, hpair, heq⟩ := List.mem_map.mp hmem
    exact w.not_infix_outside s pair hpair (heq ▸ ⟨x, y, by rw [List.append_assoc]⟩)

/-- A piece stands in front of a wrapper, is the contents of one, or stands behind the last. -/
theorem pieces_cases {pairs : List (Text × Text)} {rest piece : Text} {front back : List Text}
    (h : pieces (pairs, rest) = front ++ piece :: back) :
    (∃ earlier outside inside later, pairs = earlier ++ (outside, inside) :: later ∧
        (piece = outside ∨ piece = inside ∧ back = pieces (later, rest))) ∨
      (piece = rest ∧ back = []) := by
  induction pairs generalizing front with
  | nil =>
    cases front with
    | nil =>
      obtain ⟨hpiece, hback⟩ := List.cons.inj h
      exact .inr ⟨hpiece.symm, hback.symm⟩
    | cons first front => cases front <;> cases (List.cons.inj h).2
  | cons pair pairs ih =>
    obtain ⟨outside, inside⟩ := pair
    have hpieces : pieces ((outside, inside) :: pairs, rest) = outside :: inside :: pieces (pairs, rest) := rfl
    rw [hpieces] at h
    match front with
    | [] => exact .inl ⟨[], outside, inside, pairs, rfl, .inl (List.cons.inj h).1.symm⟩
    | [_] =>
      obtain ⟨hpiece, hback⟩ := List.cons.inj (List.cons.inj h).2
      exact .inl ⟨[], outside, inside, pairs, rfl, .inr ⟨hpiece.symm, hback.symm⟩⟩
    | _ :: _ :: front =>
      refine (ih (List.cons.inj (List.cons.inj h).2).2).imp_left ?_
      rintro ⟨earlier, outside', inside', later, rfl, hpiece⟩
      exact ⟨(outside, inside) :: earlier, outside', inside', later, rfl, hpiece⟩

/-- The contents of a wrapper hold another opener, and there is a closer behind it when the contents are put in their place. -/
def Nests (w : Wrapper) (s : Text) : Prop :=
  ∃ earlier outside x y later, (w.scan s).1 = earlier ++ (outside, x ++ (w.opener ++ y)) :: later ∧
    w.closer <:+: y ++ (pieces (later, (w.scan s).2)).flatten

/-- When wrappers are taken off, others are left only if their openers are put together, or stand in the contents. -/
theorem occurs_runs_iff (w : Wrapper) (s : Text) :
    w.Occurs (w.runs s).flatten ↔
      w.Nests s ∨ ∃ before rest, Crosses (w.runs s) before w.opener rest ∧ w.closer <:+: rest := by
  rw [occurs_flatten_iff]
  refine or_congr ⟨?_, ?_⟩ Iff.rfl
  · rintro ⟨front, x, y, back, hpieces, hcloser⟩
    rcases pieces_cases hpieces with ⟨earlier, outside, inside, later, hpairs, rfl | ⟨rfl, rfl⟩⟩ | ⟨hpiece, rfl⟩
    · have hnone := w.not_infix_outside s (x ++ (w.opener ++ y), inside) (by rw [hpairs]; simp)
      exact absurd ⟨x, y, by rw [List.append_assoc]⟩ hnone
    · exact ⟨earlier, outside, x, y, later, hpairs, hcloser⟩
    · refine absurd ⟨x, y, hpiece.symm, ?_⟩ (w.not_occurs_rest s)
      rwa [List.flatten_nil, List.append_nil] at hcloser
  · rintro ⟨earlier, outside, x, y, later, hpairs, hcloser⟩
    refine ⟨(earlier.flatMap fun (outside, inside) => [outside, inside]) ++ [outside], x, y,
      pieces (later, (w.scan s).2), ?_, hcloser⟩
    rw [runs, pieces, hpairs, pieces]
    simp

/-! ### What a pass does to other wrappers -/

/-- The opener stands in one piece, and the closer behind it in the same one or in a later one. -/
def IsWholeIn (w : Wrapper) (pieces : List Text) : Prop :=
  ∃ front x y back, pieces = front ++ (x ++ (w.opener ++ y)) :: back ∧ (w.closer <:+: y ∨ ∃ piece ∈ back, w.closer <:+: piece)

/-- A marker of a wrapper is put together from several pieces. -/
def Joins (w : Wrapper) (pieces : List Text) : Prop :=
  ∃ before inside after, Crosses pieces before w.opener (inside ++ (w.closer ++ after)) ∨
    Crosses pieces (before ++ (w.opener ++ inside)) w.closer after

theorem IsWholeIn.occurs {pieces : List Text} (h : w.IsWholeIn pieces) : w.Occurs pieces.flatten := by
  obtain ⟨front, x, y, back, rfl, hcloser⟩ := h
  refine ⟨front.flatten ++ x, y ++ back.flatten, by simp, ?_⟩
  rcases hcloser with hcloser | ⟨piece, hpiece, hcloser⟩
  · exact hcloser.trans (List.prefix_append _ _).isInfix
  · exact (hcloser.trans (List.infix_of_mem_flatten hpiece)).trans (List.suffix_append _ _).isInfix

theorem IsWholeIn.mono {fewer more : List Text} (h : w.IsWholeIn fewer) (hmore : fewer.Sublist more) : w.IsWholeIn more := by
  obtain ⟨front, x, y, back, rfl, hcloser⟩ := h
  obtain ⟨first, second, rfl, -, hsecond⟩ := List.append_sublist_iff.mp hmore
  obtain ⟨third, fourth, rfl, hmem, hback⟩ := List.cons_sublist_iff.mp hsecond
  obtain ⟨left, right, rfl⟩ := List.append_of_mem hmem
  refine ⟨first ++ left, x, y, right ++ fourth, by simp, ?_⟩
  exact hcloser.imp_right fun ⟨piece, hpiece, hcloser⟩ => ⟨piece, List.mem_append_right right (hback.subset hpiece), hcloser⟩

theorem Joins.occurs {pieces : List Text} (h : w.Joins pieces) : w.Occurs pieces.flatten := by
  obtain ⟨before, inside, after, hcrosses | hcrosses⟩ := h
  · exact ⟨before, _, hcrosses.flatten_eq, ⟨inside, after, by rw [List.append_assoc]⟩⟩
  · refine ⟨before, inside ++ (w.closer ++ after), ?_, ⟨inside, after, by rw [List.append_assoc]⟩⟩
    rw [hcrosses.flatten_eq, List.append_assoc, List.append_assoc]

/-- A wrapper in a text that is made of pieces has each of its markers in one piece, or one of them is put together. -/
theorem isWholeIn_or_joins {pieces : List Text} (h : w.Occurs pieces.flatten) : w.IsWholeIn pieces ∨ w.Joins pieces := by
  obtain ⟨before, rest, hsplit, inside, after, hrest⟩ := h
  rw [List.append_assoc] at hrest
  subst hrest
  rcases inside_or_crosses w.opener_ne hsplit with ⟨front, x, y, back, rfl, rfl, hbehind⟩ | hcrosses
  · have hback : (y :: back).flatten = inside ++ (w.closer ++ after) := hbehind.symm
    rcases inside_or_crosses w.closer_ne hback with ⟨earlier, x', y', later, hpieces, -, -⟩ | hcrosses
    · refine .inl ⟨front, x, y, back, rfl, ?_⟩
      cases earlier with
      | nil =>
        obtain ⟨rfl, -⟩ := List.cons.inj hpieces
        exact .inl ⟨x', y', by rw [List.append_assoc]⟩
      | cons first earlier =>
        obtain ⟨-, rfl⟩ := List.cons.inj hpieces
        exact .inr ⟨_, List.mem_append_right _ List.mem_cons_self, x', y', by rw [List.append_assoc]⟩
    · refine .inr ⟨front.flatten ++ x, inside, after, .inr ?_⟩
      have hextended := (hcrosses.extend (x ++ w.opener)).append front
      simpa only [List.append_assoc] using hextended
  · exact .inr ⟨before, inside, after, .inl hcrosses⟩

/-- The markers of two wrappers cannot overlap. -/
structure ApartFrom (v w : Wrapper) : Prop where
  opener_opener : Apart w.opener v.opener
  opener_closer : Apart w.opener v.closer
  closer_opener : Apart w.closer v.opener
  closer_closer : Apart w.closer v.closer

theorem comment_apartFrom_dataSection : comment.ApartFrom dataSection := ⟨by decide, by decide, by decide, by decide⟩

theorem Occurs.delete {v : Wrapper} {marker a b : Text} (hopener : Apart marker v.opener)
    (hcloser : Apart marker v.closer) (h : v.Occurs (a ++ (marker ++ b))) : v.Occurs (a ++ b) := by
  obtain ⟨before, rest, hsplit, inside, after, hrest⟩ := h
  rw [List.append_assoc] at hrest
  subst hrest
  rcases hopener.cases hsplit with ⟨z, rfl, hbehind⟩ | ⟨z, rfl, rfl⟩
  · rcases hcloser.cases hbehind.symm with ⟨z', rfl, rfl⟩ | ⟨z', rfl, rfl⟩
    · exact ⟨before, inside ++ (v.closer ++ z') ++ b, by simp, ⟨inside, z' ++ b, by simp⟩⟩
    · exact ⟨before, z ++ (z' ++ (v.closer ++ after)), by simp, ⟨z ++ z', after, by simp⟩⟩
  · exact ⟨a ++ z, inside ++ (v.closer ++ after), by simp, ⟨inside, after, by simp⟩⟩

theorem occurs_pieces_of_occurs_marked {v : Wrapper} (happart : v.ApartFrom w) (pairs : List (Text × Text)) (rest a : Text)
    (h : v.Occurs (a ++ (w.marked (pairs, rest)).flatten)) : v.Occurs (a ++ (pieces (pairs, rest)).flatten) := by
  induction pairs generalizing a with
  | nil => exact h
  | cons pair pairs ih =>
    obtain ⟨outside, inside⟩ := pair
    have hopened : v.Occurs ((a ++ outside) ++ (w.opener ++ (inside ++ (w.closer ++ (w.marked (pairs, rest)).flatten)))) := by
      simpa [marked_cons] using h
    have hclosed := hopened.delete happart.opener_opener happart.opener_closer
    rw [← List.append_assoc] at hclosed
    have hlater := ih _ (hclosed.delete happart.closer_opener happart.closer_closer)
    simpa [pieces] using hlater

theorem pieces_sublist_marked (w : Wrapper) (found : List (Text × Text) × Text) : (pieces found).Sublist (w.marked found) := by
  obtain ⟨pairs, rest⟩ := found
  induction pairs with
  | nil => exact List.Sublist.refl _
  | cons pair pairs ih =>
    obtain ⟨outside, inside⟩ := pair
    exact (((ih.cons w.closer).cons_cons inside).cons w.opener).cons_cons outside

/-- When wrappers are taken off, others that cannot overlap with them are left if they were there, or if one of their markers is put together. -/
theorem occurs_runs_iff_of_apartFrom {v : Wrapper} (happart : v.ApartFrom w) (s : Text) :
    v.Occurs (w.runs s).flatten ↔ v.Occurs s ∨ v.Joins (w.runs s) := by
  constructor
  · intro h
    refine (isWholeIn_or_joins h).imp_left fun hwhole => ?_
    have hoccurs := (hwhole.mono (w.pieces_sublist_marked (w.scan s))).occurs
    rwa [w.flatten_marked_scan s] at hoccurs
  · rintro (hoccurs | hjoins)
    · rw [← w.flatten_marked_scan s] at hoccurs
      exact occurs_pieces_of_occurs_marked happart (w.scan s).1 (w.scan s).2 [] hoccurs
    · exact hjoins.occurs

/-! ### What is left alone -/

theorem outsides_sublist_pieces (found : List (Text × Text) × Text) :
    (found.1.map Prod.fst ++ [found.2]).Sublist (pieces found) := by
  obtain ⟨pairs, rest⟩ := found
  induction pairs with
  | nil => exact List.Sublist.refl _
  | cons pair pairs ih => exact (ih.cons pair.2).cons_cons pair.1

theorem scan_of_not_occurs (h : ¬w.Occurs s) : w.scan s = ([], s) := by
  have hall := w.flatten_marked_scan s
  generalize w.scan s = found at hall
  obtain ⟨_ | ⟨⟨outside, inside⟩, pairs⟩, rest⟩ := found
  · exact Prod.ext rfl (by simpa [marked] using hall)
  · refine absurd ⟨outside, inside ++ (w.closer ++ (w.marked (pairs, rest)).flatten), ?_, ⟨inside, _, List.append_assoc _ _ _⟩⟩ h
    exact hall.symm

theorem length_runs_le (w : Wrapper) (s : Text) : (w.runs s).flatten.length ≤ s.length := by
  have hlength := (w.pieces_sublist_marked (w.scan s)).flatten.length_le
  rwa [w.flatten_marked_scan s] at hlength

theorem scan_eq_nil_iff : (w.scan s).1 = [] ↔ ¬w.Occurs s := by
  constructor
  · intro hnil
    have hall := w.flatten_marked_scan s
    rw [marked, hnil] at hall
    have hself : (w.scan s).2 = s := by simpa using hall
    have hrest := w.not_occurs_rest s
    rwa [hself] at hrest
  · intro h
    rw [scan_of_not_occurs h]

instance (w : Wrapper) (s : Text) : Decidable (w.Occurs s) :=
  decidable_of_iff ((w.scan s).1 ≠ []) (not_iff_comm.mp scan_eq_nil_iff.symm)

theorem length_runs_lt (h : w.Occurs s) : (w.runs s).flatten.length < s.length := by
  have hall := w.flatten_marked_scan s
  have hrest := w.not_occurs_rest s
  rw [runs]
  generalize w.scan s = found at hall hrest
  obtain ⟨_ | ⟨⟨outside, inside⟩, pairs⟩, rest⟩ := found
  · have hself : rest = s := by simpa [marked] using hall
    exact absurd (hself ▸ h) hrest
  · have hlater := (w.pieces_sublist_marked (pairs, rest)).flatten.length_le
    have hpos := List.length_pos_of_ne_nil w.opener_ne
    have hpieces : pieces ((outside, inside) :: pairs, rest) = outside :: inside :: pieces (pairs, rest) := rfl
    rw [← hall, hpieces, marked_cons]
    simp only [List.flatten_cons, List.length_append]
    omega

theorem length_outsides_le (w : Wrapper) (s : Text) : (w.outsides s).flatten.length ≤ (w.runs s).flatten.length :=
  (outsides_sublist_pieces (w.scan s)).flatten.length_le

/-! ### Blanks around a wrapper -/

/-- The markers at both ends of a wrapper begin and end with something that can be seen. -/
def IsVisible (w : Wrapper) : Prop := (∀ c ∈ w.opener.head?, isBlank c = false) ∧ ∀ c ∈ w.closer.getLast?, isBlank c = false

theorem isVisible_comment : comment.IsVisible := by
  refine ⟨fun c hc => ?_, fun c hc => ?_⟩ <;> · obtain rfl := Option.some.inj hc; decide

theorem isVisible_dataSection : dataSection.IsVisible := by
  refine ⟨fun c hc => ?_, fun c hc => ?_⟩ <;> · obtain rfl := Option.some.inj hc; decide

theorem occurs_trim_iff (hw : w.IsVisible) : w.Occurs (trim s) ↔ w.Occurs s := by
  constructor
  · rintro ⟨before, rest, hsplit, hcloser⟩
    obtain ⟨a, b, hs, -⟩ := exists_eq_trim s
    rw [hsplit] at hs
    exact ⟨a ++ before, rest ++ b, by rw [hs]; simp, hcloser.trans (List.prefix_append rest b).isInfix⟩
  · rintro ⟨before, rest, rfl, inside, after, hrest⟩
    have hfirst : ∀ c ∈ (w.opener ++ (inside ++ w.closer)).head?, isBlank c = false := by
      rw [List.head?_append_of_ne_nil _ w.opener_ne]
      exact hw.1
    have hlast : ∀ c ∈ (w.opener ++ (inside ++ w.closer)).getLast?, isBlank c = false := by
      rw [← List.append_assoc, List.getLast?_append_of_ne_nil _ w.closer_ne]
      exact hw.2
    obtain ⟨x, y, hsplit⟩ := exists_trim_append (by simp [w.opener_ne]) hfirst hlast before after
    refine ⟨x, inside ++ (w.closer ++ y), ?_, ⟨inside, y, List.append_assoc _ _ _⟩⟩
    rw [← hrest]
    simpa only [List.append_assoc] using hsplit

end Wrapper

open Wrapper

theorem dropComments_cons (c : Char) (cs : Text) :
    dropComments (c :: cs) =
      match comment.contents? (c :: cs) with
      | some inside => dropComments (cs.drop (3 + inside.length + 3))
      | none => c :: dropComments cs := by
  have hcontents : comment.contents? (c :: cs) =
      if "<!--".toList.isPrefixOf (c :: cs) then (splitOnce? "-->" (cs.drop 3)).map Prod.fst else none := rfl
  rw [dropComments, hcontents]
  split
  · cases splitOnce? "-->" (cs.drop 3) <;> rfl
  · rfl

theorem unwrapSections_cons (c : Char) (cs : Text) :
    unwrapSections (c :: cs) =
      match dataSection.contents? (c :: cs) with
      | some inside => inside ++ unwrapSections (cs.drop (8 + inside.length + 3))
      | none => c :: unwrapSections cs := by
  have hcontents : dataSection.contents? (c :: cs) =
      if "<![CDATA[".toList.isPrefixOf (c :: cs) then (splitOnce? "]]>" (cs.drop 8)).map Prod.fst else none := rfl
  rw [unwrapSections, hcontents]
  split
  · cases splitOnce? "]]>" (cs.drop 8) <;> rfl
  · rfl

theorem dropComments_eq (s : Text) : dropComments s = (comment.outsides s).flatten := by
  induction s using comment.wrapper_induction with
  | nil => rw [dropComments, outsides, scan_nil]; rfl
  | wrapper c cs inside rest hrest hcontents ih =>
    have hdrop : cs.drop (3 + inside.length + 3) = rest := drop_of_contents? hrest
    rw [dropComments_cons, hcontents, outsides, scan_of_contents? hcontents hrest]
    simp only [hdrop, ih]
    rfl
  | char c cs hcontents ih =>
    rw [dropComments_cons, hcontents, outsides, scan_of_none hcontents, flatten_outsides_addFirst]
    exact congrArg (c :: ·) ih

theorem unwrapSections_eq (s : Text) : unwrapSections s = (dataSection.runs s).flatten := by
  induction s using dataSection.wrapper_induction with
  | nil => rw [unwrapSections, runs, scan_nil]; rfl
  | wrapper c cs inside rest hrest hcontents ih =>
    have hdrop : cs.drop (8 + inside.length + 3) = rest := drop_of_contents? hrest
    rw [unwrapSections_cons, hcontents, runs, scan_of_contents? hcontents hrest]
    simp only [hdrop, ih]
    rfl
  | char c cs hcontents ih =>
    rw [unwrapSections_cons, hcontents, runs, scan_of_none hcontents, flatten_pieces_addFirst]
    exact congrArg (c :: ·) ih

/-! ### Cleaned style sheets -/

/-- There is a complete comment or a complete section in the text. -/
def HasWrapper (s : Text) : Prop := comment.Occurs s ∨ dataSection.Occurs s

instance (s : Text) : Decidable (HasWrapper s) := inferInstanceAs (Decidable (_ ∨ _))

/-- The ways in which the passes over a style sheet put a wrapper together. -/
inductive MakesWrapper (s : Text) : Prop
  /-- What stands around dropped comments makes an opener of a comment, and there is a closer behind it. -/
  | dropped {before rest : Text} (hopener : Crosses (comment.outsides s) before comment.opener rest)
      (hcloser : comment.closer <:+: rest)
  /-- What stands around the markers of unwrapped sections makes a marker of a comment. -/
  | unwrapped (h : comment.Joins (dataSection.runs (dropComments s)))
  /-- What stands around the markers of unwrapped sections makes an opener of a section, and there is a closer behind it. -/
  | rewrapped {before rest : Text} (hopener : Crosses (dataSection.runs (dropComments s)) before dataSection.opener rest)
      (hcloser : dataSection.closer <:+: rest)
  /-- The opener of a section stands in an unwrapped one, and there is a closer behind it. -/
  | nested (h : dataSection.Nests (dropComments s))

/-- A cleaned style sheet has a wrapper just when the passes put one together. -/
theorem hasWrapper_clean_iff (s : Text) : HasWrapper (clean s) ↔ MakesWrapper s := by
  rw [clean, HasWrapper, occurs_trim_iff isVisible_comment, occurs_trim_iff isVisible_dataSection, unwrapSections_eq,
    occurs_runs_iff, occurs_runs_iff_of_apartFrom comment_apartFrom_dataSection, dropComments_eq, occurs_outsides_iff,
    ← dropComments_eq]
  constructor
  · rintro ((⟨before, rest, hopener, hcloser⟩ | hjoins) | hnests | ⟨before, rest, hopener, hcloser⟩)
    · exact .dropped hopener hcloser
    · exact .unwrapped hjoins
    · exact .nested hnests
    · exact .rewrapped hopener hcloser
  · rintro (⟨hopener, hcloser⟩ | hjoins | ⟨hopener, hcloser⟩ | hnests)
    · exact .inl (.inl ⟨_, _, hopener, hcloser⟩)
    · exact .inl (.inr hjoins)
    · exact .inr (.inr ⟨_, _, hopener, hcloser⟩)
    · exact .inr (.inl hnests)

theorem dropComments_of_not_occurs {s : Text} (h : ¬comment.Occurs s) : dropComments s = s := by
  rw [dropComments_eq, outsides, scan_of_not_occurs h]
  simp

theorem unwrapSections_of_not_occurs {s : Text} (h : ¬dataSection.Occurs s) : unwrapSections s = s := by
  rw [unwrapSections_eq, runs, scan_of_not_occurs h]
  simp [pieces]

theorem length_dropComments_le (s : Text) : (dropComments s).length ≤ (comment.runs s).flatten.length := by
  rw [dropComments_eq]
  exact comment.length_outsides_le s

theorem length_clean_le (s : Text) : (clean s).length ≤ (unwrapSections (dropComments s)).length :=
  (infix_trimWhile isBlank _).length_le

theorem length_clean_lt {s : Text} (h : HasWrapper s) : (clean s).length < s.length := by
  have hclean := length_clean_le s
  have hunwrap : (unwrapSections (dropComments s)).length ≤ (dropComments s).length := by
    rw [unwrapSections_eq]
    exact dataSection.length_runs_le _
  by_cases hcomment : comment.Occurs s
  · have hdrop := length_dropComments_le s
    have hshorter := length_runs_lt hcomment
    omega
  · have hkept := dropComments_of_not_occurs hcomment
    have hshorter := length_runs_lt (h.resolve_left hcomment)
    rw [hkept, unwrapSections_eq] at hclean
    omega

/-- A trimmed style sheet is left alone just when it has no wrapper. -/
theorem clean_eq_self_iff {s : Text} (htrim : trim s = s) : clean s = s ↔ ¬HasWrapper s := by
  constructor
  · intro hclean hwrapper
    have hshorter := length_clean_lt hwrapper
    rw [hclean] at hshorter
    exact Nat.lt_irrefl _ hshorter
  · intro hnone
    rw [HasWrapper, not_or] at hnone
    rw [clean, dropComments_of_not_occurs hnone.1, unwrapSections_of_not_occurs hnone.2, htrim]

/-! ### Style blocks -/

/-- The style sheet in an element, as it stands in the document. -/
def styleText (e : Node.Element) : Text := (Node.onlyTextOf? e.children).getD []

theorem exists_of_mem_styleBlocks {inline : Bool} {document : List Node} {b : StyleBlock} (hb : b ∈ styleBlocks inline document)
    (horigin : b.origin = .styleElement) :
    ∃ e ∈ Node.listElements document, e.name = "style".toList ∧ b.css = clean (styleText e) := by
  rcases List.mem_append.mp hb with hb | hb
  · obtain ⟨e, he, hblock⟩ := List.mem_filterMap.mp hb
    rw [styleBlock?] at hblock
    split at hblock
    · cases hblock
    · rename_i hname
      extract_lets css at hblock
      split at hblock
      · cases hblock
      · cases hblock
        exact ⟨e, he, not_not.mp hname, rfl⟩
  · have hattributes : b.origin = .styleAttributes := by
      split at hb
      · rw [Option.mem_toList, inlineBlock?] at hb
        split at hb
        · cases hb
        · cases hb
          rfl
      · cases hb
    rw [hattributes] at horigin
    cases horigin

/--
A block of a style element has a wrapper, and is not left alone when it is cleaned again, just when the passes over its style sheet put a wrapper together.
-/
theorem hasWrapper_block_iff {inline : Bool} {document : List Node} {b : StyleBlock} (hb : b ∈ styleBlocks inline document)
    (horigin : b.origin = .styleElement) :
    ∃ e ∈ Node.listElements document, e.name = "style".toList ∧ b.css = clean (styleText e) ∧
      (HasWrapper b.css ↔ MakesWrapper (styleText e)) ∧ (clean b.css = b.css ↔ ¬MakesWrapper (styleText e)) := by
  obtain ⟨e, he, hname, hcss⟩ := exists_of_mem_styleBlocks hb horigin
  have hwrapper := hasWrapper_clean_iff (styleText e)
  have htrim : trim (clean (styleText e)) = clean (styleText e) := trim_trim _
  refine ⟨e, he, hname, hcss, ?_, ?_⟩
  · rw [hcss, hwrapper]
  · rw [hcss, clean_eq_self_iff htrim, hwrapper]

/-- A style sheet for old readers, in a comment and in a section. -/
def wrappedSheet : List Node :=
  [.element "style" [] [.text .special "<!-- .a \x7b\x7d --> <![CDATA[ .b \x7b color: red; \x7d ]]>"]]

theorem hasWrapper_block_iff_wrappedSheet :
    (∀ b ∈ styleBlocks true wrappedSheet, b.css = ".b \x7b color: red; \x7d".toList ∧ b.origin = .styleElement) ∧
      ∀ b ∈ styleBlocks true wrappedSheet, ∃ e ∈ Node.listElements wrappedSheet,
        ¬MakesWrapper (styleText e) ∧ clean b.css = b.css := by
  have hblocks : ∀ b ∈ styleBlocks true wrappedSheet,
      b.css = ".b \x7b color: red; \x7d".toList ∧ b.origin = .styleElement := by decide +kernel
  refine ⟨hblocks, fun b hb => ?_⟩
  obtain ⟨hcss, horigin⟩ := hblocks b hb
  obtain ⟨e, he, -, -, hwrapper, hclean⟩ := hasWrapper_block_iff hb horigin
  have hnone : ¬HasWrapper b.css := by
    rw [hcss]
    decide +kernel
  exact ⟨e, he, fun hmakes => hnone (hwrapper.mpr hmakes), hclean.mpr fun hmakes => hnone (hwrapper.mpr hmakes)⟩

/-- The text around the first comment is a comment once it is dropped. -/
def commentAround : List Node :=
  [.element "style" [] [.text .special "<!-<!-- a -->- b -->.c \x7b color: red; \x7d"]]

/-- A comment is put together, by either pass, and a section that stands in another is left. -/
theorem hasWrapper_commentAround :
    (document? "<style><!-<!-- a -->- b -->.c \x7b color: red; \x7d</style>").map (fun document =>
        (styleBlocks true document).map (·.css)) = some ["<!-- b -->.c \x7b color: red; \x7d".toList] ∧
      clean "<![CDATA[<!]]>-- a -->" = "<!-- a -->".toList ∧
      clean "<![CDATA[ .a \x7b\x7d <![CDATA[ .b \x7b\x7d ]]> ]]>" = ".a \x7b\x7d <![CDATA[ .b \x7b\x7d  ]]>".toList ∧
      ¬∀ (document : List Node), ∀ b ∈ styleBlocks true document, b.origin = .styleElement →
        ¬HasWrapper b.css ∧ clean b.css = b.css := by
  refine ⟨by decide +kernel, by decide +kernel, by decide +kernel, fun h => ?_⟩
  have hblocks := h commentAround
  revert hblocks
  decide +kernel

end Html

end UiToolkit
