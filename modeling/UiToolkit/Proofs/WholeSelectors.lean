import UiToolkit.Proofs.ElementNames
import UiToolkit.Proofs.Splitting
import UiToolkit.StyleSheet.Source

/-!
# Selectors in one piece

The selectors of a rule are what stands between its commas, and the segments of a selector what a scan makes of it. A class with escapes in its name stays in one piece for both exactly when every escaped character could stand in the name without its backslash: the scan takes a backslash along as if it were a letter, and the split takes what stands behind it for what it is elsewhere. An attribute with a value in quotes is never split, but its segment ends at the first closing bracket, in quotes or not.
-/

namespace UiToolkit

open Text Nesting Segment

namespace Text

theorem Nesting.ne_of_closerOf? {c closer : Char} (h : closerOf? c = some closer) : closer ≠ '\\' := by
  rintro rfl
  unfold closerOf? at h
  repeat' split at h
  all_goals cases h

/-- No step comes to wait for a backslash. -/
theorem Nesting.notMem_closers_step {n : Nesting} (h : '\\' ∉ n.closers) (c : Char) : '\\' ∉ (n.step c).closers := by
  unfold step
  split
  · repeat' split
    all_goals exact h
  · split
    · exact h
    · split
      · rename_i closer hcloser
        exact List.not_mem_cons_of_ne_of_not_mem (ne_of_closerOf? hcloser).symm h
      · split
        · exact fun hmem => h (List.mem_of_mem_tail hmem)
        · exact h

theorem Nesting.notMem_closers_after {n : Nesting} (h : '\\' ∉ n.closers) (s : Text) : '\\' ∉ (n.after s).closers := by
  induction s generalizing n with
  | nil => exact h
  | cons c s ih => exact ih (notMem_closers_step h c)

theorem Nesting.eq_top_of_step_backslash {n : Nesting} (h : '\\' ∉ n.closers) (htop : n.step '\\' = top) : n = top := by
  cases hquote : n.quote with
  | none =>
    have hhead : (n.closers.head? == some '\\') = false := beq_false_of_ne fun heq => h (List.mem_of_mem_head? heq)
    have hstep : n.step '\\' = n := by simp [step, hquote, isQuote, closerOf?, hhead]
    exact hstep.symm.trans htop
  | some q =>
    have hstep : (n.step '\\').quote = some q := by
      simp only [step, hquote]
      split <;> rfl
    rw [htop] at hstep
    cases hstep

end Text

namespace Segment

variable {t : Text}

/-! ### Classes -/

theorem scan_point (t : Text) :
    scan ('.' :: t) = ⟨.className, '.' :: t.takeWhile isNameChar⟩ :: scan (t.dropWhile isNameChar) := by
  rw [scan_cons, opening_point, take_length_takeWhile, drop_length_takeWhile]

theorem scan_point_eq_singleton_iff :
    scan ('.' :: t) = [⟨.className, '.' :: t⟩] ↔ ∀ c ∈ t, isNameChar c = true := by
  rw [scan_point]
  constructor
  · intro h
    have htext : '.' :: t.takeWhile isNameChar = '.' :: t := congrArg Segment.text (List.cons.inj h).1
    exact List.takeWhile_eq_self_iff.mp (List.cons.inj htext).2
  · intro h
    rw [List.takeWhile_eq_self_iff.mpr h, List.dropWhile_eq_nil_iff.mpr h, scan_nil]

theorem isBlank_of_isNameChar {c : Char} (hc : isNameChar c = true) : isBlank c = false := by
  refine Bool.eq_false_iff.mpr fun hblank => ?_
  rw [isNameChar_of_isTypeChar_eq_false (not_isTypeChar_of_separates (.inl hblank)).1] at hc
  cases hc

theorem isBlank_of_mem_class (ht : ∀ c ∈ t, isNameChar c = true) : ∀ c ∈ '.' :: t, isBlank c = false :=
  List.forall_mem_cons.mpr ⟨by decide, fun c hc => isBlank_of_isNameChar (ht c hc)⟩

end Segment

theorem Selector.rewrite_class {t : Text} (ht : ∀ c ∈ t, isNameChar c = true) (policy : Policy) :
    (Selector.ofText ('.' :: t)).rewrite policy =
      match policy.breakingMatch? ('.' :: t) with
      | some fragment => .error (.breaking fragment)
      | none => .ok ('.' :: t) := by
  have hblank := isBlank_of_mem_class ht
  have hscan := scan_point_eq_singleton_iff.mpr ht
  have hrewritten : (Selector.ofText ('.' :: t)).rewritten = '.' :: t := by
    rw [rewritten_ofText (trim_eq_self_of_all hblank), hscan]
    simp [rewriting, compounds, rewriteCompound]
  rw [rewrite, refusal?, ofText, words_of_forall (List.cons_ne_nil _ _) hblank, List.findSome?_singleton, hscan]
  cases policy.breakingMatch? ('.' :: t) with
  | some fragment => rfl
  | none =>
    rw [ofText, hscan] at hrewritten
    exact congrArg Except.ok hrewritten

/-- A unit of a name: a character that stands for itself, or the one behind a backslash, where a line feed is no escape and a hexadecimal digit begins a code point. -/
inductive NameUnit where
  | plain (c : Char) (h : isNameChar c = true ∧ c ≠ '\\')
  | escaped (c : Char) (h : c ≠ '\n' ∧ isHexDigit c = false)

namespace NameUnit

def char : NameUnit → Char
  | plain c _ => c
  | escaped c _ => c

def text : NameUnit → Text
  | plain c _ => [c]
  | escaped c _ => ['\\', c]

/-- A name as style sheets write it. -/
def spelled (units : List NameUnit) : Text := units.flatMap text

/-- The selector of a class. -/
def classSelector (units : List NameUnit) : Text := '.' :: spelled units

variable {u : NameUnit} {units : List NameUnit}

theorem spelled_cons (u : NameUnit) (units : List NameUnit) : spelled (u :: units) = u.text ++ spelled units := rfl

theorem spelled_append (A B : List NameUnit) : spelled (A ++ B) = spelled A ++ spelled B := List.flatMap_append

theorem isNameChar_text_iff : (∀ c ∈ u.text, isNameChar c = true) ↔ isNameChar u.char = true := by
  cases u with
  | plain c h => exact List.forall_mem_singleton
  | escaped c h =>
    rw [text, List.forall_mem_cons, List.forall_mem_singleton]
    exact and_iff_right (by decide)

theorem isNameChar_spelled_iff :
    (∀ c ∈ spelled units, isNameChar c = true) ↔ ∀ u ∈ units, isNameChar u.char = true := by
  simp only [spelled, List.mem_flatMap, ← isNameChar_text_iff]
  exact ⟨fun h u hu c hc => h c ⟨u, hu, hc⟩, fun h c ⟨u, hu, hc⟩ => h u hu c hc⟩

theorem text_of_not_isNameChar (hu : isNameChar u.char = false) : u.text = ['\\', u.char] := by
  cases u with
  | plain c h => exact absurd (h.1.symm.trans hu) (by decide)
  | escaped c h => rfl

/-! ### Splitting -/

/-- A unit behind `s` stays whole unless it is an escaped comma with nothing open in front of it. -/
theorem isWhole_text_iff (s : Text) (u : NameUnit) :
    IsWhole ',' (top.after s) u.text ↔ (u.char = ',' → isBalanced s = false) := by
  have hcomma : isNameChar ',' = false := by decide
  have hsettled : (top.after s).IsSettled := isSettled_after (fun _ => rfl) s
  cases u with
  | plain c h =>
    have hc : c ≠ ',' := fun heq => absurd (h.1.symm.trans (heq ▸ hcomma)) (by decide)
    exact iff_of_true (isWhole_cons.mpr ⟨separates_of_ne hc _, rfl⟩) fun heq => absurd heq hc
  | escaped c h =>
    have hbackslash : (top.after s).separates ',' '\\' = false := separates_of_ne (by decide) _
    rw [text, isWhole_cons, isWhole_cons, and_iff_right hbackslash, char]
    refine (and_iff_left rfl).trans ?_
    by_cases hc : c = ','
    · subst hc
      rw [← Bool.not_eq_true, ← Bool.not_eq_true, isBalanced_iff, imp_iff_right rfl, not_iff_not]
      constructor
      · -- The comma separates only where all is closed, and the backslash in front of it has closed nothing.
        intro hseparates
        have htop := eq_top_of_separates (isSettled_step hsettled '\\') hseparates
        exact eq_top_of_step_backslash (notMem_closers_after (n := top) List.not_mem_nil s) htop
      · intro htop
        rw [htop]
        rfl
    · exact iff_of_true (separates_of_ne hc _) fun heq => absurd heq hc

theorem isWhole_spelled_iff (s : Text) (units : List NameUnit) :
    IsWhole ',' (top.after s) (spelled units) ↔
      ∀ A u B, units = A ++ u :: B → u.char = ',' → isBalanced (s ++ spelled A) = false := by
  -- Along the units `s` is the text read so far, so that it decides for each comma whether something is open there.
  induction units generalizing s with
  | nil => exact iff_of_true rfl fun A u B h => absurd h (by simp)
  | cons v units ih =>
    rw [spelled_cons, isWhole_append, ← after_append, ih, isWhole_text_iff]
    constructor
    · rintro ⟨hfirst, hrest⟩ A u B h
      cases A with
      | nil =>
        obtain ⟨rfl, rfl⟩ := List.cons.inj h
        simpa [spelled] using hfirst
      | cons w A =>
        obtain ⟨rfl, rfl⟩ := List.cons.inj h
        rw [spelled_cons, ← List.append_assoc]
        exact hrest A u B rfl
    · intro h
      refine ⟨fun hv => by simpa [spelled] using h [] v units rfl hv, fun A u B hsplit hu => ?_⟩
      rw [List.append_assoc, ← spelled_cons]
      exact h (v :: A) u B (congrArg (v :: ·) hsplit) hu

theorem splitTopLevel_classSelector_iff :
    splitTopLevel ',' (classSelector units) = [classSelector units] ↔
      ∀ A u B, units = A ++ u :: B → u.char = ',' → isBalanced (spelled A) = false := by
  have hpoint : IsWhole ',' top ['.'] := rfl
  have hwhole := isWhole_spelled_iff ['.'] units
  rw [splitTopLevel_eq_singleton_iff]
  exact (isWhole_append (s := ['.'])).trans ((and_iff_right hpoint).trans hwhole)

/-! ### Scanning -/

theorem scan_classSelector_iff :
    scan (classSelector units) = [⟨.className, classSelector units⟩] ↔ ∀ u ∈ units, isNameChar u.char = true :=
  scan_point_eq_singleton_iff.trans isNameChar_spelled_iff

/-- Behind the backslash of a character that names do not have, the class is over. -/
theorem scan_classSelector_append {A B : List NameUnit} (hA : ∀ v ∈ A, isNameChar v.char = true)
    (hu : isNameChar u.char = false) :
    scan (classSelector (A ++ u :: B)) = ⟨.className, classSelector A ++ ['\\']⟩ :: scan (u.char :: spelled B) := by
  have hname : ∀ c ∈ spelled A ++ ['\\'], isNameChar c = true :=
    List.forall_mem_append.mpr ⟨isNameChar_spelled_iff.mpr hA, by decide⟩
  have hsplit : spelled (A ++ u :: B) = (spelled A ++ ['\\']) ++ u.char :: spelled B := by
    rw [spelled_append, spelled_cons, text_of_not_isNameChar hu]
    simp
  rw [classSelector, scan_point, hsplit, List.takeWhile_append_of_pos hname, List.dropWhile_append_of_pos hname,
    List.takeWhile_cons_of_neg (by simp [hu]), List.dropWhile_cons_of_neg (by simp [hu]), List.append_nil]
  rfl

/-! ### Both -/

/--
A class stays in one part and in one segment exactly when every character of its name could stand there without a backslash. It is split exactly if a comma is escaped with nothing open in front of it, where escaped quotes and brackets count as quotes and brackets, and the first escaped character that names do not have begins a segment of its own. In one piece it is the only selector of its rule, and refused for the denylist only.
-/
theorem classSelector_whole_iff (units : List NameUnit) :
    (splitTopLevel ',' (classSelector units) = [classSelector units] ∧
        scan (classSelector units) = [⟨.className, classSelector units⟩] ↔ ∀ u ∈ units, isNameChar u.char = true) ∧
      (splitTopLevel ',' (classSelector units) = [classSelector units] ↔
        ∀ A u B, units = A ++ u :: B → u.char = ',' → isBalanced (spelled A) = false) ∧
      (∀ A u B, units = A ++ u :: B → (∀ v ∈ A, isNameChar v.char = true) → isNameChar u.char = false →
        scan (classSelector units) = ⟨.className, classSelector A ++ ['\\']⟩ :: scan (u.char :: spelled B)) ∧
      ((∀ u ∈ units, isNameChar u.char = true) →
        RuleSource.selectors (classSelector units) = [⟨classSelector units, [⟨.className, classSelector units⟩]⟩] ∧
          ∀ policy : Policy, (Selector.ofText (classSelector units)).rewrite policy =
            match policy.breakingMatch? (classSelector units) with
            | some fragment => .error (.breaking fragment)
            | none => .ok (classSelector units)) := by
  have hsplit : (∀ u ∈ units, isNameChar u.char = true) → splitTopLevel ',' (classSelector units) = [classSelector units] := by
    refine fun h => splitTopLevel_classSelector_iff.mpr fun A u B hunits hu => ?_
    have hname := h u (by simp [hunits])
    rw [hu] at hname
    cases hname
  refine ⟨⟨fun h => scan_classSelector_iff.mp h.2, fun h => ⟨hsplit h, scan_classSelector_iff.mpr h⟩⟩,
    splitTopLevel_classSelector_iff, ?_, fun h => ⟨?_, Selector.rewrite_class (isNameChar_spelled_iff.mpr h)⟩⟩
  · rintro A u B rfl hA hu
    exact scan_classSelector_append hA hu
  · have htrim : trim (classSelector units) = classSelector units :=
      trim_eq_self_of_all (isBlank_of_mem_class (isNameChar_spelled_iff.mpr h))
    rw [RuleSource.selectors, hsplit h, List.map_singleton, htrim]
    simp [classSelector, Selector.ofText, scan_point_eq_singleton_iff.mpr (isNameChar_spelled_iff.mpr h)]

/-- The class that is written `.md\:flex`. -/
def mediumFlex : List NameUnit :=
  [.plain 'm' (by decide), .plain 'd' (by decide), .escaped ':' (by decide), .plain 'f' (by decide), .plain 'l' (by decide),
    .plain 'e' (by decide), .plain 'x' (by decide)]

/-- The class that is written `.\--x`. -/
def hyphens : List NameUnit := [.escaped '-' (by decide), .plain '-' (by decide), .plain 'x' (by decide)]

/-- A hyphen may be escaped, a colon may not. -/
theorem classSelector_whole_iff_hyphens :
    (∀ u ∈ hyphens, isNameChar u.char = true) ∧
      splitTopLevel ',' ".\\--x" = [".\\--x".toList] ∧ scan ".\\--x" = [⟨.className, ".\\--x"⟩] ∧
      RuleSource.selectors ".\\--x" = [⟨".\\--x", [⟨.className, ".\\--x"⟩]⟩] ∧
      mediumFlex = mediumFlex.take 2 ++ .escaped ':' (by decide) :: mediumFlex.drop 3 ∧
      (∀ v ∈ mediumFlex.take 2, isNameChar v.char = true) ∧ isNameChar ':' = false ∧
      scan ".md\\:flex" = ⟨.className, ".md\\"⟩ :: scan ":flex" := by
  have hhyphens : ∀ u ∈ hyphens, isNameChar u.char = true := by decide
  have hfront : ∀ v ∈ mediumFlex.take 2, isNameChar v.char = true := by decide
  have hcolon : isNameChar (NameUnit.escaped ':' (by decide)).char = false := by decide
  obtain ⟨hwhole, -, -, hrule⟩ := classSelector_whole_iff hyphens
  obtain ⟨-, -, hsegment, -⟩ := classSelector_whole_iff mediumFlex
  exact ⟨hhyphens, (hwhole.mpr hhyphens).1, (hwhole.mpr hhyphens).2, (hrule hhyphens).1, rfl, hfront, hcolon,
    hsegment (mediumFlex.take 2) _ (mediumFlex.drop 3) rfl hfront hcolon⟩

/-- Not every class stays in one piece: the escaped colon begins a pseudo class. -/
theorem not_classSelector_whole :
    ¬∀ units : List NameUnit, units ≠ [] → splitTopLevel ',' (classSelector units) = [classSelector units] ∧
      scan (classSelector units) = [⟨.className, classSelector units⟩] := by
  intro h
  have hscan := (h mediumFlex (List.cons_ne_nil _ _)).2
  have hpseudo : scan ".md\\:flex" = [⟨.className, ".md\\"⟩, ⟨.pseudoClass, ":flex"⟩] := by decide +kernel
  exact absurd (hscan.symm.trans hpseudo) (by decide)

end NameUnit

/-- An attribute asked for with a value in double quotes, where neither is written with escapes. -/
structure QuotedAttribute where
  name : Text
  value : Text
  name_chars : ∀ c ∈ name, c.isAlphanum = true ∨ c = '-' ∨ c = '_'
  value_chars : ∀ c ∈ value, c ≠ '"' ∧ c ≠ '\\' ∧ c ≠ '\n'

namespace QuotedAttribute

/-- The selector from its opening bracket through the quote that opens the value. -/
def opened (a : QuotedAttribute) : Text := '[' :: (a.name ++ ['=', '"'])

def text (a : QuotedAttribute) : Text := a.opened ++ (a.value ++ ['"', ']'])

/-! ### Splitting -/

theorem notMem_nestingChars (a : QuotedAttribute) : ∀ c ∈ a.name, c ∉ nestingChars := by
  intro c hc hmem
  have hall : ∀ d ∈ nestingChars, ¬(d.isAlphanum = true ∨ d = '-' ∨ d = '_') := by decide
  exact hall c hmem (a.name_chars c hc)

theorem isWhole_opened (a : QuotedAttribute) :
    IsWhole ',' top a.opened ∧ top.after a.opened = ⟨[']'], some '"', false⟩ := by
  have hproper : (top.step '[').IsProper := isProper_step isProper_top '['
  have hname : (top.step '[').after a.name = top.step '[' := by
    by_cases hnil : a.name = []
    · rw [hnil]
      rfl
    · exact after_plain hproper hnil a.notMem_nestingChars
  refine ⟨isWhole_cons.mpr ⟨rfl, isWhole_append.mpr ⟨isWhole_plain hproper a.notMem_nestingChars, ?_⟩⟩, ?_⟩
  · rw [hname]
    rfl
  · calc top.after a.opened = ((top.step '[').after a.name).after ['=', '"'] := after_append _ a.name _
      _ = ⟨[']'], some '"', false⟩ := by rw [hname]; rfl

theorem splitTopLevel_text (a : QuotedAttribute) : splitTopLevel ',' a.text = [a.text] := by
  obtain ⟨hopened, hinside⟩ := a.isWhole_opened
  obtain ⟨hvalue, hbehind⟩ := isWhole_quoted [']'] fun c hc => ⟨(a.value_chars c hc).1, (a.value_chars c hc).2.1⟩
  rw [splitTopLevel_eq_singleton_iff, text, isWhole_append, isWhole_append, hinside, hbehind]
  exact ⟨hopened, hvalue, rfl⟩

/-! ### Scanning -/

theorem scan_attribute {s : Text} (hs : ∀ c ∈ s, c ≠ ']' ∧ c ≠ '\\') (rest : Text) :
    scan ('[' :: (s ++ ']' :: rest)) = ⟨.attribute, '[' :: (s ++ [']'])⟩ :: scan rest := by
  have hsplit : s ++ ']' :: rest = (s ++ [']']) ++ rest := by simp
  have hlength : s.length + 1 = (s ++ [']']).length := by simp
  rw [scan_cons, opening_bracket, attributeExtent_closer hs, hsplit, hlength, List.take_left, List.drop_left]

theorem ne_of_mem_name (a : QuotedAttribute) : ∀ c ∈ a.name ++ ['=', '"'], c ≠ ']' ∧ c ≠ '\\' := by
  refine List.forall_mem_append.mpr ⟨fun c hc => ?_, by decide⟩
  constructor <;>
  · rintro rfl
    exact a.notMem_nestingChars _ hc (by decide)

/-- Whatever of the value stands in front of the first closing bracket belongs to the attribute. -/
theorem scan_of_front (a : QuotedAttribute) {front : Text} (hvalue : ∀ c ∈ front, c ≠ '\\') (hfront : ']' ∉ front)
    (rest : Text) :
    scan (a.opened ++ (front ++ ']' :: rest)) = ⟨.attribute, a.opened ++ (front ++ [']'])⟩ :: scan rest := by
  have hs : ∀ c ∈ a.name ++ ['=', '"'] ++ front, c ≠ ']' ∧ c ≠ '\\' :=
    List.forall_mem_append.mpr ⟨a.ne_of_mem_name, fun c hc => ⟨fun h => hfront (h ▸ hc), hvalue c hc⟩⟩
  simpa only [opened, List.cons_append, List.append_assoc] using scan_attribute hs rest

theorem scan_text_of_notMem (a : QuotedAttribute) (h : ']' ∉ a.value) : scan a.text = [⟨.attribute, a.text⟩] := by
  have hvalue : ∀ c ∈ a.value ++ ['"'], c ≠ '\\' :=
    List.forall_mem_append.mpr ⟨fun c hc => (a.value_chars c hc).2.1, by decide⟩
  have hscan := a.scan_of_front hvalue (by simp [h]) []
  rwa [List.append_assoc, scan_nil] at hscan

theorem scan_text_of_append (a : QuotedAttribute) {front rest : Text} (hsplit : a.value = front ++ ']' :: rest)
    (hfront : ']' ∉ front) :
    scan a.text = ⟨.attribute, a.opened ++ (front ++ [']'])⟩ :: scan (rest ++ ['"', ']']) := by
  have hvalue : ∀ c ∈ front, c ≠ '\\' := fun c hc => (a.value_chars c (hsplit ▸ List.mem_append_left _ hc)).2.1
  rw [text, hsplit, List.append_assoc, List.cons_append]
  exact a.scan_of_front hvalue hfront _

/-! ### Both -/

/--
A quoted value never ends a part at a comma, whatever brackets and quotes of the other kind it holds. It stays in the segment of its attribute exactly if it has no closing bracket; the first one ends the segment, and what stands behind it is scanned for itself.
-/
theorem text_whole_iff (a : QuotedAttribute) :
    splitTopLevel ',' a.text = [a.text] ∧ (scan a.text = [⟨.attribute, a.text⟩] ↔ ']' ∉ a.value) ∧
      ∀ front rest, a.value = front ++ ']' :: rest → ']' ∉ front →
        scan a.text = ⟨.attribute, a.opened ++ (front ++ [']'])⟩ :: scan (rest ++ ['"', ']']) := by
  refine ⟨a.splitTopLevel_text, ⟨fun h hmem => ?_, a.scan_text_of_notMem⟩, fun front rest => a.scan_text_of_append⟩
  obtain ⟨front, rest, hsplit, hfront⟩ := List.eq_append_cons_of_mem hmem
  have hrest : scan (rest ++ ['"', ']']) = [] := (List.cons.inj ((a.scan_text_of_append hsplit hfront).symm.trans h)).2
  have htext : rest ++ ['"', ']'] = [] := by rw [← textOf_scan (rest ++ ['"', ']']), hrest, textOf_nil]
  simp at htext

/-- The selector `[title="a]b"]`. -/
def bracketTitle : QuotedAttribute := ⟨"title", "a]b", by decide, by decide⟩

theorem text_whole_iff_bracketTitle :
    splitTopLevel ',' "[title=\"a]b\"]" = ["[title=\"a]b\"]".toList] ∧
      bracketTitle.value = "a".toList ++ ']' :: "b".toList ∧ ']' ∉ "a".toList ∧
      scan "[title=\"a]b\"]" = ⟨.attribute, "[title=\"a]"⟩ :: scan "b\"]" := by
  obtain ⟨hsplit, -, hscan⟩ := text_whole_iff bracketTitle
  exact ⟨hsplit, rfl, by decide, hscan "a" "b" rfl (by decide)⟩

/-- The two readings of a quoted value do not agree: a closing bracket in it ends the attribute for the scan. -/
theorem not_text_whole :
    ¬∀ a : QuotedAttribute, splitTopLevel ',' a.text = [a.text] ∧ scan a.text = [⟨.attribute, a.text⟩] := by
  intro h
  have hscan := (h bracketTitle).2
  have hsegments : scan "[title=\"a]b\"]" =
      [⟨.attribute, "[title=\"a]"⟩, ⟨.typeName, "b"⟩, ⟨.unknown, "\""⟩, ⟨.unknown, "]"⟩] := by decide +kernel
  exact absurd (hscan.symm.trans hsegments) (by decide)

end QuotedAttribute

end UiToolkit
