import UiToolkit.FileTree
import UiToolkit.Proofs.Attempt

/-!
# Changes to file trees

A change touches one place and leaves every directory where it is, so a path that leads to a file keeps leading there. A text that is written is read back until its own place is written again.
-/

namespace UiToolkit.FileTree

open Attempt Text

variable {t t' : FileTree} {p q : Path} {place : Place}

theorem lookup_filter (keep : Place → Bool) (place : Place) (nodes : List (Place × FileNode)) :
    (nodes.filter fun entry => keep entry.1).lookup place = if keep place then nodes.lookup place else none := by
  induction nodes with
  | nil => simp
  | cons entry nodes ih =>
    obtain ⟨p, node⟩ := entry
    rw [List.filter_cons]
    by_cases hp : place = p
    · subst hp
      cases hkeep : keep place
      · simp [ih, hkeep]
      · simp
    · have hne : (place == p) = false := beq_false_of_ne hp
      cases hkeep : keep p <;> simp [List.lookup_cons, hne, ih]

theorem lookup_put (place other : Place) (node : FileNode) :
    (t.put place node).nodes.lookup other = if other = place then some node else t.nodes.lookup other := by
  have hput : (t.put place node).nodes = (t.nodes.filter fun entry => decide (entry.1 ≠ place)) ++ [(place, node)] := rfl
  rw [hput, List.lookup_append, lookup_filter (fun p => decide (p ≠ place))]
  by_cases hother : other = place
  · simp [hother]
  · simp [hother, List.lookup_cons, beq_false_of_ne hother]

theorem node?_put_self (hplace : place ≠ []) (node : FileNode) : (t.put place node).node? place = some node := by
  rw [node?, if_neg (by simpa using hplace), lookup_put, if_pos rfl]

theorem node?_put_of_ne {other : Place} (hne : other ≠ place) (node : FileNode) :
    (t.put place node).node? other = t.node? other := by
  rw [node?, node?, lookup_put, if_neg hne]

/-! ### Places -/

/-- Every directory stays a directory. -/
def Keeps (t t' : FileTree) : Prop := ∀ place, t.node? place = some .directory → t'.node? place = some .directory

theorem locate_of_keeps (hkeeps : t.Keeps t') {path : Text} {names : List Text} {start : Place}
    (h : t.locate path start names = .ok place) : t'.locate path start names = .ok place := by
  induction names generalizing start with
  | nil => exact h
  | cons name names ih =>
    rw [locate] at h ⊢
    split at h
    · rename_i hdirectory
      rw [hkeeps start hdirectory]
      exact ih h
    · cases h
    · cases h

theorem place_of_keeps (hkeeps : t.Keeps t') (h : t.place p = .ok place) : t'.place p = .ok place :=
  locate_of_keeps hkeeps h

theorem locate_append (path : Text) (start : Place) (names : List Text) (name : Text)
    (h : t.locate path start (names ++ [name]) = .ok place) : ∃ outer, place = step outer name := by
  induction names generalizing start with
  | nil =>
    rw [List.nil_append, locate] at h
    split at h
    · exact ⟨start, (Except.ok.inj h).symm⟩
    · cases h
    · cases h
  | cons first names ih =>
    rw [List.cons_append, locate] at h
    split at h
    · exact ih _ h
    · cases h
    · cases h

/-- A name that leads somewhere of its own. -/
def IsProper (name : Text) : Prop := name ≠ [] ∧ name ≠ ['.'] ∧ name ≠ ['.', '.']

/-- Paths that end in different names do not lead to the same place. -/
theorem getLast?_place (hname : IsProper p.name) (h : t.place p = .ok place) : place.getLast? = some p.name := by
  cases hlast : p.names.getLast? with
  | none => exact absurd (by rw [Path.name, hlast]; rfl) hname.1
  | some name =>
    have hp : p.name = name := by rw [Path.name, hlast]; rfl
    rw [hp] at hname ⊢
    rw [FileTree.place, ← List.dropLast_append_getLast? name hlast] at h
    obtain ⟨outer, rfl⟩ := locate_append _ _ _ _ h
    rw [step, if_neg (by simpa using ⟨hname.1, hname.2.1⟩), if_neg (by simpa using hname.2.2), List.getLast?_concat]

/-! ### Writing and reading -/

theorem exists_put_of_write {text : Text} (h : t.write p text = .ok t') :
    ∃ place, t.place p = .ok place ∧ t.node? place ≠ some .directory ∧ t' = t.put place (.file (utf8 text)) := by
  obtain ⟨place, hplace, h⟩ := bind_eq_ok.mp h
  split at h
  · cases h
  · rename_i hnode
    exact ⟨place, hplace, hnode, (Except.ok.inj h).symm⟩

theorem exists_put_of_createDirectory (h : t.createDirectory p = .ok t') :
    ∃ place, t.place p = .ok place ∧ t.node? place = none ∧ t' = t.put place .directory := by
  obtain ⟨place, hplace, h⟩ := bind_eq_ok.mp h
  split at h
  · cases h
  · rename_i hnode
    exact ⟨place, hplace, hnode, (Except.ok.inj h).symm⟩

theorem read_eq_ok {bytes : List UInt8} :
    t.read p = .ok bytes ↔ ∃ place, t.place p = .ok place ∧ t.node? place = some (.file bytes) := by
  refine bind_eq_ok.trans (exists_congr fun place => and_congr_right fun _ => ?_)
  split
  · rename_i hnode
    simp [hnode]
  · rename_i hnode
    simp [hnode]
  · rename_i hnode
    simp [hnode]

theorem keeps_put {node : FileNode} (h : t.node? place ≠ some .directory) : t.Keeps (t.put place node) := by
  intro other hother
  rw [node?_put_of_ne _ node, hother]
  rintro rfl
  exact h hother

theorem read_write {text : Text} (h : t.write p text = .ok t') : t'.read p = .ok (utf8 text) := by
  obtain ⟨place, hplace, hnode, rfl⟩ := exists_put_of_write h
  refine read_eq_ok.mpr ⟨place, place_of_keeps (keeps_put hnode) hplace, node?_put_self ?_ _⟩
  rintro rfl
  exact hnode rfl

theorem read_put {node : FileNode} {bytes : List UInt8} (h : t.read p = .ok bytes) (hnode : t.node? place ≠ some .directory)
    (hplace : t.place p ≠ .ok place) : (t.put place node).read p = .ok bytes := by
  obtain ⟨other, hother, hbytes⟩ := read_eq_ok.mp h
  refine read_eq_ok.mpr ⟨other, place_of_keeps (keeps_put hnode) hother, ?_⟩
  rw [node?_put_of_ne _ node, hbytes]
  rintro rfl
  exact hplace hother

theorem read_of_write {text : Text} {bytes : List UInt8} (h : t.write q text = .ok t') (hread : t.read p = .ok bytes)
    (hplace : t.place p ≠ t.place q) : t'.read p = .ok bytes := by
  obtain ⟨place, hq, hnode, rfl⟩ := exists_put_of_write h
  exact read_put hread hnode (hq ▸ hplace)

theorem read_of_createDirectory {bytes : List UInt8} (h : t.createDirectory q = .ok t') (hread : t.read p = .ok bytes) :
    t'.read p = .ok bytes := by
  obtain ⟨place, -, hnode, rfl⟩ := exists_put_of_createDirectory h
  -- a new directory is put where nothing was, so not where the file is
  refine read_put hread (by simp [hnode]) fun hp => ?_
  obtain ⟨other, hother, hbytes⟩ := read_eq_ok.mp hread
  cases hp.symm.trans hother
  rw [hnode] at hbytes
  cases hbytes

end UiToolkit.FileTree
