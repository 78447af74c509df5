import Mathlib.Data.Char
import Mathlib.Data.List.Lex
import Mathlib.Data.List.Sort
import Mathlib.Order.Bounds.Basic
import UiToolkit.Proofs.Denylist

/-!
# Looking up the denylist

The entries of a denylist are put into lower case and into the order of code points, each of them once and none of them empty. So the denylist is determined by the set of its entries, however they are listed, and the first entry that occurs in a text is the least one that does.
-/

namespace UiToolkit

namespace Text

/-! ### Sorted sets -/

theorem before_iff {s t : Text} : before s t = true ↔ s < t := by
  induction s generalizing t with
  | nil =>
    cases t with
    | nil => simp [before]
    | cons b bs => simp [before]
  | cons a as ih =>
    cases t with
    | nil => simp [before]
    | cons b bs => simp [before, ih, List.cons_lt_cons_iff]

theorem mem_insertSorted {s t : Text} {ts : List Text} : t ∈ insertSorted s ts ↔ t = s ∨ t ∈ ts := by
  induction ts with
  | nil => simp [insertSorted]
  | cons u ts ih =>
    rw [insertSorted]
    split
    · rename_i heq
      rw [beq_iff_eq.mp heq]
      simp
    · split
      · exact List.mem_cons
      · rw [List.mem_cons, ih, List.mem_cons]
        exact or_left_comm

theorem mem_sortedSet {t : Text} {ts : List Text} : t ∈ sortedSet ts ↔ t ∈ ts := by
  induction ts with
  | nil => rfl
  | cons s ts ih => rw [sortedSet, List.foldr_cons, mem_insertSorted, ← sortedSet, ih, List.mem_cons]

theorem pairwise_insertSorted {ts : List Text} (h : ts.Pairwise (· < ·)) (s : Text) :
    (insertSorted s ts).Pairwise (· < ·) := by
  induction ts with
  | nil => exact List.pairwise_singleton _ s
  | cons t ts ih =>
    obtain ⟨hfirst, hrest⟩ := List.pairwise_cons.mp h
    rw [insertSorted]
    split
    · exact h
    · rename_i hne
      split
      · rename_i hbefore
        have hlt := before_iff.mp hbefore
        exact List.pairwise_cons.mpr ⟨List.forall_mem_cons.mpr ⟨hlt, fun u hu => hlt.trans (hfirst u hu)⟩, h⟩
      · rename_i hbefore
        rw [before_iff] at hbefore
        have hlt : t < s := lt_of_le_of_ne (not_lt.mp hbefore) fun heq => hne (beq_iff_eq.mpr heq.symm)
        refine List.pairwise_cons.mpr ⟨fun u hu => ?_, ih hrest⟩
        rcases mem_insertSorted.mp hu with rfl | hu
        · exact hlt
        · exact hfirst u hu

theorem pairwise_sortedSet (ts : List Text) : (sortedSet ts).Pairwise (· < ·) := by
  induction ts with
  | nil => exact List.Pairwise.nil
  | cons s ts ih => exact pairwise_insertSorted ih s

/-- A search from the front of a sorted list finds the least of the texts that it is for. -/
theorem isLeast_of_find? {ts : List Text} (h : ts.Pairwise (· < ·)) {p : Text → Bool} {t : Text} (ht : ts.find? p = some t) :
    IsLeast {u | u ∈ ts ∧ p u = true} t := by
  obtain ⟨hp, before, after, rfl, hbefore⟩ := List.find?_eq_some_iff_append.mp ht
  refine ⟨⟨by simp, hp⟩, fun u hu => ?_⟩
  obtain ⟨hmem, hu⟩ := hu
  rcases List.mem_append.mp hmem with hmem | hmem
  · have := hbefore u hmem
    simp [hu] at this
  · rcases List.mem_cons.mp hmem with rfl | hmem
    · exact le_rfl
    · exact ((List.pairwise_cons.mp (List.pairwise_append.mp h).2.1).1 u hmem).le

theorem find?_eq_some_iff_isLeast {ts : List Text} (h : ts.Pairwise (· < ·)) {p : Text → Bool} {t : Text} :
    ts.find? p = some t ↔ IsLeast {u | u ∈ ts ∧ p u = true} t := by
  constructor
  · exact isLeast_of_find? h
  · intro hleast
    obtain ⟨u, hu⟩ := Option.isSome_iff_exists.mp (List.find?_isSome.mpr ⟨t, hleast.1⟩)
    rw [hu, (isLeast_of_find? h hu).unique hleast]

end Text

namespace Denylist

open Text

/-- The entries that are not empty, in lower case. -/
def fragments (entries : List Text) : List Text := (entries.filter (!·.isEmpty)).map lower

theorem mem_ofEntries {entries : List Text} {fragment : Text} :
    fragment ∈ ofEntries entries ↔ fragment ∈ entries.map lower ∧ fragment ≠ [] := by
  rw [ofEntries, mem_sortedSet, List.mem_filter]
  simp

theorem mem_ofEntries_iff_mem_fragments {entries : List Text} {fragment : Text} :
    fragment ∈ ofEntries entries ↔ fragment ∈ fragments entries := by
  rw [mem_ofEntries, fragments, List.mem_map, List.mem_map]
  constructor
  · intro h
    obtain ⟨⟨entry, hentry, rfl⟩, hne⟩ := h
    refine ⟨entry, List.mem_filter.mpr ⟨hentry, ?_⟩, rfl⟩
    cases entry with
    | nil => exact absurd rfl hne
    | cons c cs => rfl
  · intro h
    obtain ⟨entry, hentry, rfl⟩ := h
    obtain ⟨hmem, hne⟩ := List.mem_filter.mp hentry
    refine ⟨⟨entry, hmem, rfl⟩, fun hnil => ?_⟩
    rw [lowerAfter_eq_nil hnil] at hne
    cases hne

theorem ofEntries_congr {entries entries' : List Text} (h : ∀ f, f ∈ fragments entries' ↔ f ∈ fragments entries) :
    ofEntries entries' = ofEntries entries :=
  (pairwise_sortedSet _).eq_of_mem_iff (pairwise_sortedSet _) fun f =>
    mem_ofEntries_iff_mem_fragments.trans ((h f).trans mem_ofEntries_iff_mem_fragments.symm)

end Denylist

namespace Policy

open Text

variable {properties : Entries Support} {entries : List Text}

/-! ### Lookups -/

theorem breakingMatch?_ofTables_eq_some_iff {text fragment : Text} :
    (ofTables properties entries).breakingMatch? text = some fragment ↔
      IsLeast {f | f ∈ Denylist.fragments entries ∧ f <:+: lower text} fragment := by
  have hset : {f | f ∈ Denylist.fragments entries ∧ f <:+: lower text} =
      {f | f ∈ Denylist.ofEntries entries ∧ occursIn f (lower text) = true} := by
    ext f
    rw [Set.mem_ofPred, Set.mem_ofPred, Denylist.mem_ofEntries_iff_mem_fragments, occursIn_iff]
  rw [hset]
  exact find?_eq_some_iff_isLeast (pairwise_sortedSet _)

theorem breakingMatch?_ofTables_eq_none_iff {text : Text} :
    (ofTables properties entries).breakingMatch? text = none ↔ ∀ f ∈ Denylist.fragments entries, ¬f <:+: lower text := by
  rw [Selector.breakingMatch?_eq_none_iff]
  exact forall_congr' fun f => by rw [ofTables, Denylist.mem_ofEntries_iff_mem_fragments]

theorem breakingMatch?_ofTables_congr {properties' : Entries Support} {entries' : List Text}
    (h : ∀ f, f ∈ Denylist.fragments entries' ↔ f ∈ Denylist.fragments entries) :
    (ofTables properties' entries').breakingMatch? = (ofTables properties entries).breakingMatch? := by
  funext text
  rw [breakingMatch?, breakingMatch?, ofTables, ofTables, Denylist.ofEntries_congr h]

/--
A lookup gives the least entry, in lower case and in code point order, that occurs in the text in lower case, and none just when no entry occurs. Empty entries do not count, and neither do order, repetition and letter case: with the same entries otherwise, two lists give the same for every text.
-/
theorem breakingMatch?_canonical (properties : Entries Support) (breaking extra : List Text) :
    (∀ text fragment, (ofTables properties (breaking ++ extra)).breakingMatch? text = some fragment ↔
        IsLeast {f | f ∈ Denylist.fragments (breaking ++ extra) ∧ f <:+: lower text} fragment) ∧
      (∀ text, (ofTables properties (breaking ++ extra)).breakingMatch? text = none ↔
        ∀ f ∈ Denylist.fragments (breaking ++ extra), ¬f <:+: lower text) ∧
      ∀ (properties' : Entries Support) (breaking' extra' : List Text),
        (∀ f, f ∈ Denylist.fragments (breaking' ++ extra') ↔ f ∈ Denylist.fragments (breaking ++ extra)) →
        ∀ text, (ofTables properties' (breaking' ++ extra')).breakingMatch? text =
          (ofTables properties (breaking ++ extra)).breakingMatch? text :=
  ⟨fun _ _ => breakingMatch?_ofTables_eq_some_iff, fun _ => breakingMatch?_ofTables_eq_none_iff,
    fun _ _ _ h => congrFun (breakingMatch?_ofTables_congr h)⟩

/-- Of two entries that occur the one that the other begins with is found, whichever comes first in the list. -/
theorem breakingMatch?_canonical_beginning :
    let breaking : List Text := [":NOT(", "", "+", ":Not"]
    let extra : List Text := [":not(", "+"]
    let sorted : List Text := ["+", ":not", ":not("]
    (∀ f, f ∈ Denylist.fragments (sorted ++ []) ↔ f ∈ Denylist.fragments (breaking ++ extra)) ∧
      IsLeast {f | f ∈ Denylist.fragments (breaking ++ extra) ∧ f <:+: lower "A:noT(.b)"} ":not" ∧
      (ofTables [] (sorted ++ [])).breakingMatch? "A:noT(.b)" = some ":not" ∧
      ∀ f ∈ Denylist.fragments (breaking ++ extra), ¬f <:+: lower ".a:is(.b)" := by
  intro breaking extra sorted
  have hsame : ∀ f, f ∈ Denylist.fragments (sorted ++ []) ↔ f ∈ Denylist.fragments (breaking ++ extra) := by
    have hsorted : ∀ f ∈ Denylist.fragments (sorted ++ []), f ∈ Denylist.fragments (breaking ++ extra) := by decide
    have hlisted : ∀ f ∈ Denylist.fragments (breaking ++ extra), f ∈ Denylist.fragments (sorted ++ []) := by decide
    exact fun f => ⟨hsorted f, hlisted f⟩
  have hfound : (ofTables [] (breaking ++ extra)).breakingMatch? "A:noT(.b)" = some ":not" := by decide
  have hnone : (ofTables [] (breaking ++ extra)).breakingMatch? ".a:is(.b)" = none := by decide
  obtain ⟨hleast, hfree, hcongr⟩ := breakingMatch?_canonical [] breaking extra
  exact ⟨hsame, (hleast _ _).mp hfound, (hcongr [] sorted [] hsame _).trans hfound, (hfree _).mp hnone⟩

end Policy

end UiToolkit
