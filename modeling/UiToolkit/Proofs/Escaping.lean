import UiToolkit.Proofs.Captions

/-!
# Characters written by name

Five characters are written as references. The references are put in for one character after another throughout the text, the ampersand first; since no character has its turn after a reference that contains it, this is the same as writing each character by itself. The text can be read back, references from left to right.
-/

namespace UiToolkit

open Text

namespace Text

/-- Each character of the table gives way to its form throughout the text, one after another. -/
def replaceInTurn (table : List (Char × Text)) (s : Text) : Text :=
  table.foldl (fun s (c, form) => replaceAll [c] form s) s

theorem replaceAll_singleton (c : Char) (form s : Text) :
    replaceAll [c] form s = s.flatMap fun d => if d = c then form else [d] := by
  induction s with
  | nil => rw [replaceAll, List.flatMap_nil]
  | cons d s ih =>
    have hstarts : [c].isPrefixOf (d :: s) = (c == d) := Bool.and_true _
    rw [replaceAll, List.flatMap_cons, hstarts]
    by_cases hd : d = c
    · subst hd
      rw [beq_self_eq_true, if_pos rfl, if_pos rfl]
      exact congrArg (form ++ ·) ih
    · rw [beq_false_of_ne (Ne.symm hd), if_neg Bool.false_ne_true, if_neg hd, ih]
      rfl

/-- Forms that hold none of the characters whose turn is yet to come stay as they are put in. -/
theorem replaceInTurn_eq_flatMap {table : List (Char × Text)}
    (h : table.Pairwise fun earlier later => later.1 ∉ earlier.2) (s : Text) :
    replaceInTurn table s = s.flatMap fun c => (table.lookup c).getD [c] := by
  induction table generalizing s with
  | nil => exact (List.flatMap_singleton' s).symm
  | cons entry table ih =>
    obtain ⟨c, form⟩ := entry
    obtain ⟨hform, htable⟩ := List.pairwise_cons.mp h
    have hkept : (form.flatMap fun d => (table.lookup d).getD [d]) = form := by
      have hself : ∀ d ∈ form, (table.lookup d).getD [d] = [d] := by
        intro d hd
        have hnone : table.lookup d = none := by
          refine List.lookup_eq_none_iff.mpr fun later hlater => ?_
          exact bne_iff_ne.mpr fun heq => hform later hlater (heq ▸ hd)
        rw [hnone, Option.getD_none]
      rw [List.flatMap_congr hself, List.flatMap_singleton']
    calc replaceInTurn ((c, form) :: table) s
      _ = replaceInTurn table (replaceAll [c] form s) := rfl
      _ = (s.flatMap fun d => if d = c then form else [d]).flatMap fun d => (table.lookup d).getD [d] := by
        rw [ih htable, replaceAll_singleton]
      _ = s.flatMap fun d => (((c, form) :: table).lookup d).getD [d] := by
        rw [List.flatMap_assoc]
        refine List.flatMap_congr fun d _ => ?_
        by_cases hd : d = c
        · subst hd
          rw [if_pos rfl, hkept, List.lookup_cons_self, Option.getD_some]
        · rw [if_neg hd, List.flatMap_singleton, List.lookup_cons, beq_false_of_ne hd]

end Text

namespace Uxml

/-- The characters that are written as references, in the order of their turns. -/
def references : List (Char × Text) :=
  [('&', "&amp;"), ('<', "&lt;"), ('>', "&gt;"), ('"', "&quot;"), ('\'', "&apos;")]

theorem escapeChar_eq_lookup (c : Char) : escapeChar c = (references.lookup c).getD [c] := by
  by_cases hc : c ∈ named
  · exact (by decide : ∀ d ∈ named, escapeChar d = (references.lookup d).getD [d]) c hc
  · have hnames : ∀ entry ∈ references, entry.1 ∈ named := by decide
    have hnone : references.lookup c = none := by
      refine List.lookup_eq_none_iff.mpr fun entry hentry => ?_
      exact bne_iff_ne.mpr fun heq => hc (heq ▸ hnames entry hentry)
    rw [escapeChar_of_notMem hc, hnone, Option.getD_none]

/-- The ampersand has its turn first, so no reference is written over. -/
theorem escape_eq_replaceInTurn (s : Text) : escape s = replaceInTurn references s := by
  rw [replaceInTurn_eq_flatMap (by decide), escape]
  exact List.flatMap_congr fun c _ => escapeChar_eq_lookup c

theorem escape_append (s t : Text) : escape (s ++ t) = escape s ++ escape t := List.flatMap_append

/-! ### Reading back -/

/-- The text that is meant, references being read from left to right. -/
def unescape : Text → Text
  | [] => []
  | c :: cs =>
    match references.find? fun entry => entry.2.isPrefixOf (c :: cs) with
    | some (character, form) => character :: unescape (cs.drop (form.length - 1))
    | none => c :: unescape cs
termination_by s => s.length
decreasing_by all_goals simp +arith

theorem find?_references {c : Char} (hc : c ∈ named) (rest : Text) :
    (references.find? fun entry => entry.2.isPrefixOf (escapeChar c ++ rest)) = some (c, escapeChar c) := by
  have hnamed : named = ['&', '<', '>', '"', '\''] := rfl
  simp only [hnamed, List.mem_cons, List.not_mem_nil, or_false] at hc
  rcases hc with rfl | rfl | rfl | rfl | rfl <;> rfl

theorem find?_references_eq_none {c : Char} (hc : c ≠ '&') (rest : Text) :
    (references.find? fun entry => entry.2.isPrefixOf (c :: rest)) = none := by
  have hstart : ∀ entry ∈ references, entry.2.head? = some '&' := by decide
  refine List.find?_eq_none.mpr fun entry hentry hstarts => ?_
  obtain ⟨form, hform⟩ := List.head?_eq_some_iff.mp (hstart entry hentry)
  rw [hform, List.isPrefixOf_iff_prefix, List.cons_prefix_cons] at hstarts
  exact hc hstarts.1.symm

theorem unescape_escapeChar (c : Char) (rest : Text) : unescape (escapeChar c ++ rest) = c :: unescape rest := by
  by_cases hc : c ∈ named
  · obtain ⟨first, form, hform⟩ := List.exists_cons_of_ne_nil (escapeChar_ne_nil c)
    have hfind := find?_references hc rest
    rw [hform] at hfind ⊢
    rw [List.cons_append] at hfind ⊢
    rw [unescape, hfind]
    simp
  · have hne : c ≠ '&' := fun heq => hc (heq ▸ (by decide))
    rw [escapeChar_of_notMem hc, List.singleton_append, unescape, find?_references_eq_none hne]

theorem unescape_escape (s : Text) : unescape (escape s) = s := by
  induction s with
  | nil => rw [escape, List.flatMap_nil, unescape]
  | cons c s ih =>
    calc unescape (escape (c :: s))
      _ = unescape (escapeChar c ++ escape s) := rfl
      _ = c :: s := by rw [unescape_escapeChar, ih]

/-! ### What is left in the text -/

theorem notMem_of_mem_escape {s : Text} {c : Char} (hc : c ∈ escape s) : c ∉ "<>\"'".toList := by
  have hforms : ∀ d ∈ named, ∀ e ∈ escapeChar d, e ∉ "<>\"'".toList := by decide
  obtain ⟨d, -, hd⟩ := List.mem_flatMap.mp hc
  by_cases hnamed : d ∈ named
  · exact hforms d hnamed c hd
  · rw [escapeChar_of_notMem hnamed, List.mem_singleton] at hd
    subst hd
    exact fun hmem => hnamed (List.mem_cons_of_mem '&' hmem)

theorem eq_nil_of_escapeChar {c : Char} {front rest : Text} (h : escapeChar c = front ++ '&' :: rest) :
    front = [] ∧ (c, escapeChar c) ∈ references := by
  have hmem : '&' ∈ escapeChar c := h ▸ List.mem_append_right front List.mem_cons_self
  by_cases hc : c ∈ named
  · have htail : ∀ d ∈ named, (d, escapeChar d) ∈ references ∧ '&' ∉ (escapeChar d).tail := by decide
    obtain ⟨hreference, htail⟩ := htail c hc
    refine ⟨?_, hreference⟩
    cases front with
    | nil => rfl
    | cons e front =>
      rw [h, List.cons_append, List.tail_cons] at htail
      exact absurd (List.mem_append_right front List.mem_cons_self) htail
  · rw [escapeChar_of_notMem hc, List.mem_singleton] at hmem
    exact absurd (hmem ▸ (by decide)) hc

/-- Every ampersand begins a reference. -/
theorem exists_reference_of_suffix {s rest : Text} (h : '&' :: rest <:+ escape s) :
    ∃ entry ∈ references, entry.2 <+: '&' :: rest := by
  induction s with
  | nil => exact absurd (List.suffix_nil.mp h) (List.cons_ne_nil _ _)
  | cons c s ih =>
    obtain ⟨front, hfront⟩ := h
    have hsplit : front ++ '&' :: rest = escapeChar c ++ escape s := hfront
    rcases List.append_eq_append_iff.mp hsplit with ⟨within, hform, hrest⟩ | ⟨behind, -, hescape⟩
    · cases within with
      | nil => exact ih ⟨[], hrest⟩
      | cons d within =>
        obtain ⟨rfl, hwithin⟩ := List.cons.inj hrest
        obtain ⟨rfl, hreference⟩ := eq_nil_of_escapeChar hform
        refine ⟨_, hreference, escape s, ?_⟩
        rw [hform, hwithin]
        rfl
    · exact ih ⟨behind, hescape.symm⟩

/--
Writing characters as references is the same one after another and all at once, is undone by reading the references from left to right, leaves none of these characters but the ampersands that references begin with, and goes through a text part by part.
-/
theorem escape_exact (s t : Text) :
    escape s = replaceInTurn references s ∧ unescape (escape s) = s ∧ (∀ c ∈ escape s, c ∉ "<>\"'".toList) ∧
      (∀ rest, '&' :: rest <:+ escape s → ∃ entry ∈ references, entry.2 <+: '&' :: rest) ∧
      escape (s ++ t) = escape s ++ escape t :=
  ⟨escape_eq_replaceInTurn s, unescape_escape s, fun _ => notMem_of_mem_escape, fun _ => exists_reference_of_suffix,
    escape_append s t⟩

/-- A text that looks like references already. -/
theorem escape_exact_references :
    escape "&lt;&amp;" = "&amp;lt;&amp;amp;" ∧ unescape "&amp;lt;&amp;amp;" = "&lt;&amp;" ∧
      escape "&lt;&amp;'" = "&amp;lt;&amp;amp;&apos;" := by
  obtain ⟨-, hback, -, -, happend⟩ := escape_exact "&lt;&amp;" "'"
  have hescape : escape "&lt;&amp;" = "&amp;lt;&amp;amp;" := by decide
  refine ⟨hescape, hescape ▸ hback, ?_⟩
  exact happend.trans (by rw [hescape]; rfl)

end Uxml

end UiToolkit
