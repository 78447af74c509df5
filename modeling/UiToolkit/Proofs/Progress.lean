import UiToolkit.Proofs.Segments

/-!
# Progress of a scan

A scan goes through its text from place to place. Each step reads one segment and moves the place forward, never behind the end of the text, so there are no more steps than characters. On the way the segments that were read are the text up to the place; when there is no further step they are the segments of the whole text.
-/

namespace UiToolkit

namespace Segment

open Text

/-- Where a scan stands: the segments that were read, and the place in the text where the next one begins. -/
structure Cursor where
  segments : List Segment
  place : Nat
  deriving DecidableEq

namespace Cursor

def start : Cursor := ⟨[], 0⟩

/-- Reads the segment that begins at the place of the cursor and stops behind it. At the end of the text there is nothing to read. -/
def step? (s : Text) (k : Cursor) : Option Cursor :=
  match s.drop k.place with
  | [] => none
  | c :: cs =>
    let (kind, extent) := opening c cs
    let stop := k.place + 1 + extent
    some ⟨k.segments ++ [⟨kind, (s.take stop).drop k.place⟩], stop⟩

/-- The cursor `n` steps later, if there are as many. -/
def steps? (s : Text) : Nat → Cursor → Option Cursor
  | 0, k => some k
  | n + 1, k => (k.step? s).bind (steps? s n)

/-- What every cursor of a scan satisfies: the segments that were read are the text up to its place, and with those to come they are the segments of the whole text. -/
structure IsReading (s : Text) (k : Cursor) : Prop where
  place_le : k.place ≤ s.length
  text : textOf k.segments = s.take k.place
  scan : k.segments ++ scan (s.drop k.place) = Segment.scan s

variable {s : Text} {k k' : Cursor}

theorem isReading_start (s : Text) : IsReading s start := ⟨Nat.zero_le _, rfl, rfl⟩

/-! ### One step -/

theorem step?_eq_none_iff : k.step? s = none ↔ s.length ≤ k.place := by
  rw [step?, ← List.drop_eq_nil_iff]
  cases s.drop k.place with
  | nil => simp
  | cons c cs => simp

theorem step?_of_drop {c : Char} {cs : Text} (h : s.drop k.place = c :: cs) :
    k.step? s = some
      ⟨k.segments ++ [⟨(opening c cs).1, (s.take (k.place + 1 + (opening c cs).2)).drop k.place⟩],
        k.place + 1 + (opening c cs).2⟩ := by
  rw [step?, h]

/-- A step reads the first segment of what is left, and goes on with the rest. -/
theorem exists_of_step? (h : k.step? s = some k') :
    ∃ g, k'.segments = k.segments ++ [g] ∧ g.text = (s.take k'.place).drop k.place ∧
      scan (s.drop k.place) = g :: scan (s.drop k'.place) ∧ k.place < k'.place ∧ k'.place ≤ s.length := by
  cases hrest : s.drop k.place with
  | nil =>
    rw [step?_eq_none_iff.mpr (List.drop_eq_nil_iff.mp hrest)] at h
    cases h
  | cons c cs =>
    rw [step?_of_drop hrest] at h
    obtain rfl := Option.some.inj h
    have hlength : s.length - k.place = cs.length + 1 := by
      rw [← List.length_drop, hrest, List.length_cons]
    have hextent := opening_le c cs
    have hdrop : cs.drop (opening c cs).2 = s.drop (k.place + 1 + (opening c cs).2) := by
      rw [Nat.add_assoc, ← List.drop_drop, hrest, Nat.add_comm 1, List.drop_succ_cons]
    have htake : c :: cs.take (opening c cs).2 = (s.take (k.place + 1 + (opening c cs).2)).drop k.place := by
      rw [Nat.add_assoc, List.drop_take, hrest, Nat.add_sub_cancel_left, Nat.add_comm 1, List.take_succ_cons]
    refine ⟨_, rfl, rfl, ?_, ?_, ?_⟩
    · rw [scan_cons, htake, hdrop]
    · show k.place < k.place + 1 + (opening c cs).2
      omega
    · show k.place + 1 + (opening c cs).2 ≤ s.length
      omega

theorem IsReading.step (hk : IsReading s k) (h : k.step? s = some k') : IsReading s k' := by
  obtain ⟨g, hsegments, htext, hscan, hlt, hle⟩ := exists_of_step? h
  refine ⟨hle, ?_, ?_⟩
  · calc textOf k'.segments
        = s.take k.place ++ (s.take k'.place).drop k.place := by
          rw [hsegments, textOf_append, hk.text, textOf_cons, textOf_nil, List.append_nil, htext]
      _ = (s.take k'.place).take k.place ++ (s.take k'.place).drop k.place := by
          rw [List.take_take, Nat.min_eq_left hlt.le]
      _ = s.take k'.place := List.take_append_drop _ _
  · rw [hsegments, List.append_assoc, List.singleton_append, ← hscan, hk.scan]

/-! ### All steps -/

theorem IsReading.steps {n : Nat} (hk : IsReading s k) (h : steps? s n k = some k') :
    IsReading s k' ∧ k.place + n ≤ k'.place := by
  induction n generalizing k with
  | zero =>
    obtain rfl := Option.some.inj h
    exact ⟨hk, Nat.le_refl _⟩
  | succ n ih =>
    obtain ⟨next, hnext, hrest⟩ := Option.bind_eq_some_iff.mp h
    obtain ⟨-, -, -, -, hlt, -⟩ := exists_of_step? hnext
    obtain ⟨hk', hle⟩ := ih (hk.step hnext) hrest
    exact ⟨hk', by omega⟩

theorem steps?_length_scan (hk : k.place ≤ s.length) :
    steps? s (scan (s.drop k.place)).length k = some ⟨k.segments ++ scan (s.drop k.place), s.length⟩ := by
  generalize hleft : scan (s.drop k.place) = A
  induction A generalizing k with
  | nil =>
    have hdrop : s.drop k.place = [] := by rw [← textOf_scan (s.drop k.place), hleft, textOf_nil]
    have hplace : k.place = s.length := Nat.le_antisymm hk (List.drop_eq_nil_iff.mp hdrop)
    rw [List.append_nil, ← hplace]
    rfl
  | cons g A ih =>
    obtain ⟨next, hnext⟩ : ∃ next, k.step? s = some next := by
      rw [← Option.ne_none_iff_exists']
      intro hnone
      rw [List.drop_eq_nil_iff.mpr (step?_eq_none_iff.mp hnone), scan_nil] at hleft
      cases hleft
    obtain ⟨first, hsegments, -, hscan, -, hle⟩ := exists_of_step? hnext
    obtain ⟨rfl, hrest⟩ := List.cons.inj (hscan.symm.trans hleft)
    rw [List.length_cons, steps?, hnext, Option.bind_some, ih hle hrest, hsegments, List.append_assoc,
      List.singleton_append]

end Cursor

/-! ### The whole text -/

theorem ne_nil_of_mem_scan {s : Text} {g : Segment} (h : g ∈ scan s) : g.text ≠ [] := by
  obtain ⟨A, B, hsplit⟩ := List.mem_iff_append.mp h
  have hscanned := scanned_scan s
  rw [hsplit] at hscanned
  obtain ⟨⟨c, cs, htext, -⟩, -⟩ := scanned_cons.mp (scanned_append.mp hscanned).2
  rw [htext]
  exact List.cons_ne_nil c cs

open Cursor

/--
The segments of a text are its text, and none of them is empty. They are read from left to right: each step moves the place forward and not behind the end, after any number of steps the segments are the text up to the place, and after as many steps as there are segments there is no further one.
-/
theorem scan_lossless (s : Text) :
    textOf (scan s) = s ∧ (∀ g ∈ scan s, g.text ≠ []) ∧
      (∀ k k' : Cursor, k.step? s = some k' → k.place < k'.place ∧ k'.place ≤ s.length) ∧
      (∀ (n : Nat) (k : Cursor), steps? s n start = some k →
        n ≤ k.place ∧ k.place ≤ s.length ∧ textOf k.segments = s.take k.place) ∧
      steps? s (scan s).length start = some ⟨scan s, s.length⟩ ∧ step? s ⟨scan s, s.length⟩ = none := by
  refine ⟨textOf_scan s, fun g hg => ne_nil_of_mem_scan hg, fun k k' h => ?_, fun n k h => ?_, ?_, ?_⟩
  · obtain ⟨-, -, -, -, hlt, hle⟩ := exists_of_step? h
    exact ⟨hlt, hle⟩
  · obtain ⟨hk, hle⟩ := (isReading_start s).steps h
    rw [start, Nat.zero_add] at hle
    exact ⟨hle, hk.place_le, hk.text⟩
  · exact steps?_length_scan (k := start) (Nat.zero_le s.length)
  · exact step?_eq_none_iff.mpr (Nat.le_refl _)

/-- A bracket that hides its closer, a character that begins nothing, and a pseudo class that is never closed. -/
theorem scan_lossless_unclosed :
    steps? "a[\\]].2&:not(b" 3 start =
        some ⟨[⟨.typeName, "a"⟩, ⟨.attribute, "[\\]]"⟩, ⟨.className, ".2"⟩], 7⟩ ∧
      3 ≤ 7 ∧ 7 ≤ "a[\\]].2&:not(b".toList.length ∧
      textOf [⟨.typeName, "a"⟩, ⟨.attribute, "[\\]]"⟩, ⟨.className, ".2"⟩] = "a[\\]].2&:not(b".toList.take 7 ∧
      step? "a[\\]].2&:not(b" ⟨[], 8⟩ = some ⟨[⟨.pseudoClass, ":not(b"⟩], 14⟩ ∧
      8 < 14 ∧ 14 ≤ "a[\\]].2&:not(b".toList.length := by
  have hsteps : steps? "a[\\]].2&:not(b" 3 start =
      some ⟨[⟨.typeName, "a"⟩, ⟨.attribute, "[\\]]"⟩, ⟨.className, ".2"⟩], 7⟩ := by decide
  have hstep : step? "a[\\]].2&:not(b" ⟨[], 8⟩ = some ⟨[⟨.pseudoClass, ":not(b"⟩], 14⟩ := by decide
  obtain ⟨-, -, hadvances, hreached, -⟩ := scan_lossless "a[\\]].2&:not(b"
  obtain ⟨hcount, hle, htext⟩ := hreached 3 _ hsteps
  exact ⟨hsteps, hcount, hle, htext, hstep, hadvances _ _ hstep⟩

end Segment

end UiToolkit
