import UiToolkit.Proofs.FileTrees
import UiToolkit.Proofs.Words

/-!
# Names of paths

A text that is read from a path gives it the last name that the text ends in. That name alone tells the stem, and names whose suffixes differ are different.
-/

namespace UiToolkit.Path

open Text

theorem stem_eq_of_name_eq {p q : Path} (h : p.name = q.name) : p.stem = q.stem := by
  rw [stem, stem, h]

theorem suffix_append (base : Text) {s : Text} (hs : '.' ∈ s) : suffix (base ++ s) = suffix s := by
  have hpoint : (s.reverse.takeWhile (· ≠ '.')).length ≠ s.reverse.length := by
    intro hlength
    have hwhole : s.reverse.takeWhile (· ≠ '.') = s.reverse := (List.takeWhile_prefix _).eq_of_length hlength
    have hmem : '.' ∈ s.reverse.takeWhile (· ≠ '.') := by rwa [hwhole, List.mem_reverse]
    exact absurd (List.mem_takeWhile_imp hmem) (by decide)
  rw [suffix, suffix, List.reverse_append, List.takeWhile_append, if_neg hpoint]

/-! ### Names without slashes -/

/-- No name of the path holds a slash. -/
def IsSplit (p : Path) : Prop := ∀ name ∈ p.names, ∀ c ∈ name, isSlash c = false

theorem isSplit_ofText (s : Text) : (ofText s).IsSplit := fun _ hname =>
  not_of_mem_cut (List.mem_filter.mp hname).1

theorem IsSplit.join {p : Path} (h : p.IsSplit) (s : Text) : (p.join s).IsSplit := by
  rw [Path.join]
  split
  · exact fun name hname => (List.mem_append.mp hname).elim (h name) (isSplit_ofText s name)
  · exact isSplit_ofText s

theorem IsSplit.stem {p : Path} (h : p.IsSplit) : ∀ c ∈ p.stem, isSlash c = false := by
  have hname : ∀ c ∈ p.name, isSlash c = false := by
    rw [name]
    cases hlast : p.names.getLast? with
    | none => simp
    | some name => exact h name (List.mem_of_getLast? hlast)
  rw [Path.stem]
  split
  · exact hname
  · exact fun c hc => hname c (List.mem_of_mem_take hc)

/-! ### The last name -/

theorem isProper_of_length {name : Text} (h : 2 < name.length) : FileTree.IsProper name := by
  refine ⟨?_, ?_, ?_⟩ <;> rintro rfl <;> simp at h

theorem isKept_of_isProper {name : Text} (h : FileTree.IsProper name) : (!name.isEmpty && decide (name ≠ ['.'])) = true := by
  rw [Bool.and_eq_true, Bool.not_eq_true', decide_eq_true_iff, List.isEmpty_eq_false_iff]
  exact ⟨h.1, h.2.1⟩

theorem ofText_of_forall {s : Text} (hs : ∀ c ∈ s, isSlash c = false) (hproper : FileTree.IsProper s) : ofText s = ⟨[], [s]⟩ := by
  obtain ⟨outer, last, hnil, hcut⟩ := exists_cut_append hs []
  obtain ⟨rfl, rfl⟩ : outer = [] ∧ last = [] := by
    cases outer with
    | nil => exact ⟨rfl, (List.cons.inj hnil).1.symm⟩
    | cons piece outer => simp [cut] at hnil
  have hstart : s.takeWhile isSlash = [] := by
    cases s with
    | nil => rfl
    | cons c cs => rw [List.takeWhile_cons, hs c List.mem_cons_self]; rfl
  rw [List.nil_append, List.nil_append] at hcut
  rw [ofText, hstart, hcut, List.filter_cons, if_pos (isKept_of_isProper hproper)]
  rfl

section

variable {suffix : Text} (hsuffix : ∀ c ∈ suffix, isSlash c = false) (hlength : 2 < suffix.length)

include hlength in
theorem isProper_append (base : Text) : FileTree.IsProper (base ++ suffix) :=
  isProper_of_length (by rw [List.length_append]; omega)

include hsuffix hlength

/-- What a text ends in, its last name ends in. -/
theorem exists_name_join (p : Path) (s : Text) : ∃ base, (p.join (s ++ suffix)).name = base ++ suffix := by
  obtain ⟨outer, base, -, hcut⟩ := exists_cut_append hsuffix s
  have hnames : (ofText (s ++ suffix)).names = (outer.filter fun name => !name.isEmpty && name ≠ ['.']) ++ [base ++ suffix] := by
    rw [ofText, hcut, List.filter_append, List.filter_cons, if_pos (isKept_of_isProper (isProper_append hlength base))]
    rfl
  refine ⟨base, ?_⟩
  rw [Path.join]
  split
  · rw [name, hnames, ← List.append_assoc, List.getLast?_concat]
    rfl
  · rw [name, hnames, List.getLast?_concat]
    rfl

theorem name_join (p : Path) {s : Text} (hs : ∀ c ∈ s, isSlash c = false) : (p.join (s ++ suffix)).name = s ++ suffix := by
  have hall : ∀ c ∈ s ++ suffix, isSlash c = false := List.forall_mem_append.mpr ⟨hs, hsuffix⟩
  rw [Path.join, ofText_of_forall hall (isProper_append hlength s)]
  exact congrArg (Option.getD · []) List.getLast?_concat

end

end UiToolkit.Path
