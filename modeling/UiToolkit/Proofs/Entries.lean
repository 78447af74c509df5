import Mathlib.Data.List.Induction
import Mathlib.Data.List.Nodup
import UiToolkit.Entries

/-!
# Tables that remember the order of their names

The value under a name is the last one given to it, and its place is the first one. A table never holds a name twice, and putting the entries of a table together again gives the table. A list of names is cleared of repetitions by way of such a table.
-/

namespace UiToolkit.Entries

variable {α : Type}

theorem get?_cons (key name : Text) (value : α) (entries : Entries α) :
    get? key ((name, value) :: entries) = if key = name then some value else get? key entries := by
  by_cases h : key = name
  · simp [get?, h]
  · simp [get?, List.lookup_cons, beq_false_of_ne h, h]

@[simp] theorem names_cons (name : Text) (value : α) (entries : Entries α) :
    names ((name, value) :: entries) = name :: names entries := rfl

/-- The last value that comes with the name. -/
def last? (name : Text) (pairs : List (Text × α)) : Option α := pairs.reverse.lookup name

@[simp] theorem last?_nil (name : Text) : last? name ([] : List (Text × α)) = none := rfl

theorem last?_append (name : Text) (xs ys : List (Text × α)) :
    last? name (xs ++ ys) = (last? name ys).or (last? name xs) := by
  simp only [last?, List.reverse_append, List.lookup_append]

theorem last?_cons (name n : Text) (v : α) (pairs : List (Text × α)) :
    last? name ((n, v) :: pairs) = (last? name pairs).or (if name = n then some v else none) := by
  rw [← List.singleton_append, last?_append]
  exact congrArg _ (get?_cons name n v [])

theorem mem_of_last? {name : Text} {value : α} {pairs : List (Text × α)} (h : last? name pairs = some value) :
    (name, value) ∈ pairs := by
  obtain ⟨before, after, hsplit, -⟩ := List.lookup_eq_some_iff.mp h
  exact List.mem_reverse.mp (hsplit ▸ by simp)

theorem last?_eq_none_iff {name : Text} {pairs : List (Text × α)} : last? name pairs = none ↔ name ∉ names pairs := by
  rw [last?, List.lookup_eq_none_iff, names, List.mem_map]
  constructor
  · rintro h ⟨p, hp, rfl⟩
    exact bne_iff_ne.mp (h p (List.mem_reverse.mpr hp)) rfl
  · intro h p hp
    exact bne_iff_ne.mpr fun heq => h ⟨p, List.mem_reverse.mp hp, heq.symm⟩

/-- The last value that a name gets from a list comes from the last item that gives it one. -/
theorem exists_last_of_flatMap {β : Type} {f : β → List (Text × α)} {bs : List β} {name : Text} {value : α}
    (h : last? name (bs.flatMap f) = some value) :
    ∃ before b after, bs = before ++ b :: after ∧ last? name (f b) = some value ∧ name ∉ names (after.flatMap f) := by
  induction bs with
  | nil => cases h
  | cons b bs ih =>
    rw [List.flatMap_cons, last?_append] at h
    cases hrest : last? name (bs.flatMap f) with
    | none =>
      rw [hrest] at h
      exact ⟨[], b, bs, rfl, h, last?_eq_none_iff.mp hrest⟩
    | some w =>
      rw [hrest] at h
      obtain ⟨before, d, after, rfl, hlast, hafter⟩ := ih (hrest.trans h)
      exact ⟨b :: before, d, after, rfl, hlast, hafter⟩

theorem get?_put (key name : Text) (value : α) (entries : Entries α) :
    (entries.put name value).get? key = if key = name then some value else entries.get? key := by
  induction entries with
  | nil => exact get?_cons key name value []
  | cons entry rest ih =>
    obtain ⟨n, v⟩ := entry
    by_cases hn : n = name
    · subst hn
      simp only [put, beq_self_eq_true, if_true, get?_cons]
      split <;> rfl
    · simp only [put, beq_iff_eq, hn, if_false, get?_cons, ih]
      by_cases h : key = n
      · rw [if_pos h, if_pos h, if_neg (h ▸ hn)]
      · rw [if_neg h, if_neg h]

theorem names_put (name : Text) (value : α) (entries : Entries α) :
    (entries.put name value).names = if name ∈ entries.names then entries.names else entries.names ++ [name] := by
  induction entries with
  | nil => simp [put, names]
  | cons entry rest ih =>
    obtain ⟨n, v⟩ := entry
    by_cases hn : n = name
    · subst hn
      simp [put]
    · simp only [put, beq_iff_eq, hn, if_false, names_cons, List.mem_cons, Ne.symm hn, false_or, ih]
      split <;> rfl

theorem nodup_names_put {name : Text} {value : α} {entries : Entries α} (h : entries.names.Nodup) :
    (entries.put name value).names.Nodup := by
  rw [names_put]
  split
  · exact h
  · rename_i hnew
    refine List.nodup_append.mpr ⟨h, List.nodup_singleton name, fun n hn m hm => ?_⟩
    rw [List.mem_singleton.mp hm]
    exact fun heq => hnew (heq ▸ hn)

@[simp] theorem putAll_nil (entries : Entries α) : entries.putAll [] = entries := rfl

@[simp] theorem putAll_cons (entries : Entries α) (name : Text) (value : α) (pairs : List (Text × α)) :
    entries.putAll ((name, value) :: pairs) = (entries.put name value).putAll pairs := rfl

theorem putAll_append (entries : Entries α) (xs ys : List (Text × α)) :
    entries.putAll (xs ++ ys) = (entries.putAll xs).putAll ys := by
  simp [putAll]

theorem ofList_append (xs ys : List (Text × α)) : ofList (xs ++ ys) = (ofList xs).putAll ys :=
  putAll_append [] xs ys

theorem get?_putAll (key : Text) (entries : Entries α) (pairs : List (Text × α)) :
    (entries.putAll pairs).get? key = (last? key pairs).or (entries.get? key) := by
  induction pairs generalizing entries with
  | nil => rfl
  | cons pair rest ih =>
    obtain ⟨n, v⟩ := pair
    rw [putAll_cons, ih, get?_put, last?_cons, Option.or_assoc]
    congr 1
    split <;> rfl

theorem get?_ofList (key : Text) (pairs : List (Text × α)) : (ofList pairs).get? key = last? key pairs := by
  rw [ofList, get?_putAll]
  exact Option.or_none

theorem nodup_names_putAll {entries : Entries α} (pairs : List (Text × α)) (h : entries.names.Nodup) :
    (entries.putAll pairs).names.Nodup := by
  induction pairs generalizing entries with
  | nil => exact h
  | cons pair rest ih => exact ih (nodup_names_put h)

theorem nodup_names_ofList (pairs : List (Text × α)) : (ofList pairs).names.Nodup :=
  nodup_names_putAll pairs List.nodup_nil

theorem get?_eq_some_of_mem {name : Text} {value : α} {entries : Entries α} (hnodup : entries.names.Nodup)
    (hmem : (name, value) ∈ entries) : entries.get? name = some value := by
  induction entries with
  | nil => cases hmem
  | cons entry rest ih =>
    obtain ⟨n, v⟩ := entry
    simp only [names_cons, List.nodup_cons] at hnodup
    rcases List.mem_cons.mp hmem with heq | hrest
    · cases heq
      rw [get?_cons, if_pos rfl]
    · have hne : name ≠ n := by
        rintro rfl
        exact hnodup.1 (List.mem_map_of_mem (f := Prod.fst) hrest)
      rw [get?_cons, if_neg hne]
      exact ih hnodup.2 hrest

/-- Names that are given again keep their places, and new ones come after the others. -/
theorem exists_names_putAll (entries : Entries α) (pairs : List (Text × α)) :
    ∃ more, (entries.putAll pairs).names = entries.names ++ more := by
  induction pairs generalizing entries with
  | nil => exact ⟨[], (List.append_nil _).symm⟩
  | cons pair rest ih =>
    obtain ⟨n, v⟩ := pair
    obtain ⟨more, hmore⟩ := ih (entries.put n v)
    rw [putAll_cons, hmore, names_put]
    split
    · exact ⟨more, rfl⟩
    · exact ⟨n :: more, by rw [List.append_assoc]; rfl⟩

theorem put_put (name : Text) (v w : α) (entries : Entries α) : (entries.put name v).put name w = entries.put name w := by
  induction entries with
  | nil => simp [put]
  | cons entry rest ih =>
    obtain ⟨n, x⟩ := entry
    by_cases hn : n = name
    · simp [put, hn]
    · simp only [put, beq_iff_eq, hn, if_false, ih]

theorem put_of_mem {name : Text} {value : α} {entries : Entries α} (hnodup : entries.names.Nodup)
    (hmem : (name, value) ∈ entries) : entries.put name value = entries := by
  induction entries with
  | nil => cases hmem
  | cons entry rest ih =>
    obtain ⟨n, v⟩ := entry
    simp only [names_cons, List.nodup_cons] at hnodup
    rcases List.mem_cons.mp hmem with heq | hrest
    · cases heq
      simp [put]
    · have hne : n ≠ name := by
        rintro rfl
        exact hnodup.1 (List.mem_map_of_mem (f := Prod.fst) hrest)
      rw [put, if_neg (by simpa using hne), ih hnodup.2 hrest]

theorem put_of_notMem {name : Text} (value : α) {entries : Entries α} (h : name ∉ entries.names) :
    entries.put name value = entries ++ [(name, value)] := by
  induction entries with
  | nil => rfl
  | cons entry rest ih =>
    obtain ⟨n, v⟩ := entry
    rw [names_cons, List.mem_cons, not_or] at h
    rw [put, if_neg (by simpa using Ne.symm h.1), ih h.2]
    rfl

theorem putAll_of_nodup (entries pairs : Entries α) (h : (entries ++ pairs).names.Nodup) :
    entries.putAll pairs = entries ++ pairs := by
  induction pairs generalizing entries with
  | nil => rw [putAll_nil, List.append_nil]
  | cons pair rest ih =>
    obtain ⟨n, v⟩ := pair
    have hsplit : (entries ++ (n, v) :: rest).names = entries.names ++ n :: names rest := by
      simp [names]
    have hnew : n ∉ entries.names := by
      rw [hsplit, List.nodup_append] at h
      exact fun hn => h.2.2 n hn n List.mem_cons_self rfl
    rw [putAll_cons, put_of_notMem v hnew, ih _ (by rwa [List.append_assoc]), List.append_assoc]
    rfl

theorem ofList_of_nodup {entries : Entries α} (h : entries.names.Nodup) : ofList entries = entries :=
  putAll_of_nodup [] entries h

theorem mem_ofList_iff {name : Text} {value : α} {pairs : List (Text × α)} :
    (name, value) ∈ ofList pairs ↔ last? name pairs = some value := by
  rw [← get?_ofList]
  refine ⟨get?_eq_some_of_mem (nodup_names_ofList pairs), fun h => ?_⟩
  obtain ⟨before, after, hsplit, -⟩ := List.lookup_eq_some_iff.mp h
  simp [hsplit]

theorem mem_of_mem_ofList {pair : Text × α} {pairs : List (Text × α)} (h : pair ∈ ofList pairs) : pair ∈ pairs :=
  mem_of_last? (mem_ofList_iff.mp h)

theorem mapNames_eq_self {f : Text → Text} {entries : Entries α} (hnames : ∀ name ∈ entries.names, f name = name)
    (hnodup : entries.names.Nodup) : entries.mapNames f = entries := by
  unfold mapNames
  refine (congrArg ofList ?_).trans (ofList_of_nodup hnodup)
  refine (List.map_congr_left fun entry hentry => ?_).trans (List.map_id entries)
  exact Prod.ext (hnames _ (List.mem_map_of_mem hentry)) rfl

/-! ### Part of the names -/

theorem filter_put (keeps : Text → Bool) (name : Text) (value : α) (entries : Entries α) :
    (entries.put name value).filter (fun e => keeps e.1) =
      if keeps name then put name value (entries.filter fun e => keeps e.1) else entries.filter fun e => keeps e.1 := by
  induction entries with
  | nil => cases hname : keeps name <;> simp [put, hname]
  | cons entry rest ih =>
    obtain ⟨n, v⟩ := entry
    by_cases hn : n = name
    · subst hn
      cases hname : keeps n <;> simp [put, hname]
    · simp only [put, beq_iff_eq, hn, if_false, List.filter_cons, ih]
      cases keeps n <;> cases keeps name <;> simp [put, hn]

theorem filter_putAll (keeps : Text → Bool) (entries : Entries α) (pairs : List (Text × α)) :
    (entries.putAll pairs).filter (fun e => keeps e.1) =
      putAll (entries.filter fun e => keeps e.1) (pairs.filter fun e => keeps e.1) := by
  induction pairs generalizing entries with
  | nil => rfl
  | cons pair rest ih =>
    obtain ⟨n, v⟩ := pair
    rw [putAll_cons, ih, filter_put, List.filter_cons]
    cases keeps n <;> rfl

theorem filter_ofList (keeps : Text → Bool) (pairs : List (Text × α)) :
    (ofList pairs).filter (fun e => keeps e.1) = ofList (pairs.filter fun e => keeps e.1) :=
  filter_putAll keeps [] pairs

/-! ### Names that are given together -/

/-- The second of two names that were given one after the other stands right after the first one, unless it came before. -/
theorem exists_names_split {first : Text} {front : List (Text × α)} (hfront : first ∉ names front)
    (second : Text) (v w : α) (rest : List (Text × α)) :
    ∃ before after, (ofList (front ++ (first, v) :: (second, w) :: rest)).names = before ++ first :: after ∧
      (second ∈ before ++ [first] ∨ after.head? = some second) := by
  have hnew : first ∉ (ofList front).names := fun h => by
    obtain ⟨entry, hentry, rfl⟩ := List.mem_map.mp h
    exact hfront (List.mem_map_of_mem (mem_of_mem_ofList hentry))
  obtain ⟨more, hmore⟩ := exists_names_putAll (((ofList front).put first v).put second w) rest
  rw [ofList_append, putAll_cons, putAll_cons, hmore, names_put, names_put, if_neg hnew]
  split
  · rename_i hold
    exact ⟨(ofList front).names, more, by simp, .inl hold⟩
  · exact ⟨(ofList front).names, second :: more, by simp, .inr rfl⟩

theorem notMem_of_nodup_names {name : Text} {value : α} {before after : Entries α}
    (h : names (before ++ (name, value) :: after) |>.Nodup) : name ∉ names before ∧ name ∉ names after := by
  rw [names, List.map_append, List.map_cons, List.nodup_append, List.nodup_cons] at h
  exact ⟨fun hmem => h.2.2 _ hmem _ List.mem_cons_self rfl, h.2.1.1⟩

/-- A value that is given again under a second name changes nothing, if it has that name already or another value comes right after it. -/
theorem ofList_of_second {first second : Text} {value : α} {before after : Entries α}
    (hnodup : (names (before ++ (first, value) :: after)).Nodup)
    (hsecond : (second, value) ∈ before ∨ ∃ w rest, after = (second, w) :: rest) :
    ofList (before ++ (first, value) :: (second, value) :: after) = before ++ (first, value) :: after := by
  have hshape : before ++ (first, value) :: after = (before ++ [(first, value)]) ++ after := by simp
  rw [hshape] at hnodup ⊢
  have hfront : (names (before ++ [(first, value)])).Nodup := by
    rw [names, List.map_append] at hnodup
    exact (List.nodup_append.mp hnodup).1
  have hagain : before ++ (first, value) :: (second, value) :: after =
      (before ++ [(first, value)]) ++ (second, value) :: after := by simp
  rw [hagain, ofList_append, ofList_of_nodup hfront, putAll_cons]
  rcases hsecond with hmem | ⟨w, rest, rfl⟩
  · rw [put_of_mem hfront (List.mem_append_left _ hmem), putAll_of_nodup _ _ hnodup]
  · rw [putAll_cons, put_put, ← putAll_cons, putAll_of_nodup _ _ hnodup]

/-! ### Names without repetition -/

/-- The list holds exactly the given names, each one once and in the order in which they first come. -/
structure ListsOnce (listed names : List Text) : Prop where
  mem_iff : ∀ name, name ∈ listed ↔ name ∈ names
  ordered : listed.Pairwise fun a b => names.idxOf a < names.idxOf b

@[simp] theorem distinct_nil : distinct [] = [] := rfl

theorem distinct_append_singleton (names : List Text) (name : Text) :
    distinct (names ++ [name]) = if name ∈ distinct names then distinct names else distinct names ++ [name] := by
  rw [distinct, List.map_append, ofList_append]
  exact names_put name () _

theorem listsOnce_distinct (names : List Text) : ListsOnce (distinct names) names := by
  induction names using List.reverseRecOn with
  | nil => exact ⟨fun name => Iff.rfl, List.Pairwise.nil⟩
  | append_singleton names name ih =>
    have hkeep : ∀ a ∈ distinct names, (names ++ [name]).idxOf a = names.idxOf a := by
      intro a ha
      exact List.idxOf_append_of_mem ((ih.mem_iff a).mp ha)
    have hordered : (distinct names).Pairwise fun a b => (names ++ [name]).idxOf a < (names ++ [name]).idxOf b := by
      refine ih.ordered.imp_of_mem fun {a b} ha hb hlt => ?_
      rwa [hkeep a ha, hkeep b hb]
    rw [distinct_append_singleton]
    split
    · rename_i hold
      refine ⟨fun a => ?_, hordered⟩
      rw [List.mem_append, List.mem_singleton, ih.mem_iff]
      refine ⟨Or.inl, fun h => h.elim id ?_⟩
      rintro rfl
      exact (ih.mem_iff a).mp hold
    · rename_i hnew
      have hlast : name ∉ names := fun h => hnew ((ih.mem_iff name).mpr h)
      refine ⟨fun a => by rw [List.mem_append, List.mem_append, ih.mem_iff], ?_⟩
      refine List.pairwise_append.mpr ⟨hordered, List.pairwise_singleton _ _, fun a ha b hb => ?_⟩
      rw [List.mem_singleton.mp hb, hkeep a ha, List.idxOf_append_of_notMem hlast]
      have := List.idxOf_lt_length_of_mem ((ih.mem_iff a).mp ha)
      omega

/-- Of a second list, the names are added that the first one does not have. -/
theorem distinct_append (xs ys : List Text) :
    distinct (xs ++ ys) = distinct xs ++ (distinct ys).filter (· ∉ distinct xs) := by
  induction ys using List.reverseRecOn with
  | nil => simp
  | append_singleton ys name ih =>
    rw [← List.append_assoc, distinct_append_singleton, distinct_append_singleton, ih]
    by_cases hxs : name ∈ distinct xs
    · rw [if_pos (List.mem_append_left _ hxs)]
      split
      · rfl
      · simp [hxs]
    · by_cases hys : name ∈ distinct ys
      · rw [if_pos hys, if_pos]
        exact List.mem_append_right _ (List.mem_filter.mpr ⟨hys, by simpa using hxs⟩)
      · rw [if_neg hys, if_neg]
        · simp [hxs]
        · simp [hxs, hys]

end UiToolkit.Entries
