import UiToolkit.Html.Tag
import UiToolkit.Proofs.SelectorStability
import UiToolkit.Proofs.StartTags

/-!
# Names of elements in documents and selectors

A style sheet reaches an element of a document by its name. Both names come from one table, which is read in lower case: for a tag of the table, and for an input of any type, the selector comes to the name that the document gives the element. A tag that the table does not have is kept by a selector as it is written, and by a document in lower case, so the names differ where such a tag has a capital.
-/

namespace UiToolkit

open Text

/-! ### Tag names -/

/-- Letters, digits and hyphens in ASCII. -/
def isTagChar (c : Char) : Bool := c.isAlphanum || c == '-'

structure IsTagName (tag : Text) : Prop where
  head : tag.head?.any isAsciiLetter = true
  chars : ∀ c ∈ tag, isTagChar c = true

theorem toNat_lt_of_isTagChar {c : Char} (h : isTagChar c = true) : c.toNat < 128 := by
  change (((decide ('A'.val ≤ c.val ∧ c.val ≤ 'Z'.val) || decide ('a'.val ≤ c.val) && decide (c.val ≤ 'z'.val))
    || decide ('0'.val ≤ c.val) && decide (c.val ≤ '9'.val)) || c == '-') = true at h
  simp only [Bool.or_eq_true, Bool.and_eq_true, decide_eq_true_eq, beq_iff_eq, UInt32.le_iff_toNat_le] at h
  rcases h with ((⟨-, h⟩ | ⟨-, h⟩) | ⟨-, h⟩) | rfl
  · exact Nat.lt_of_le_of_lt h (by decide)
  · exact Nat.lt_of_le_of_lt h (by decide)
  · exact Nat.lt_of_le_of_lt h (by decide)
  · decide

theorem forall_isTagChar {p : Char → Bool} (h : ((List.range 128).all fun n => !isTagChar (Char.ofNat n) || p (Char.ofNat n)) = true)
    {c : Char} (hc : isTagChar c = true) : p c = true := by
  have hp := forall_ascii (p := fun c => !isTagChar c || p c) h (toNat_lt_of_isTagChar hc)
  rwa [hc] at hp

namespace IsTagName

variable {tag : Text} (htag : IsTagName tag)
include htag

theorem lower_eq : lower tag = tag.map Char.toLower := lower_eq_map fun c hc => toNat_lt_of_isTagChar (htag.chars c hc)

theorem lower_lower : lower (lower tag) = lower tag := by
  have hchars : ∀ c ∈ tag, c.toLower.toLower = c.toLower ∧ c.toLower.toNat < 128 := by
    intro c hc
    have h := forall_isTagChar (p := fun c => c.toLower.toLower == c.toLower && decide (c.toLower.toNat < 128)) (by decide)
      (htag.chars c hc)
    simpa using h
  rw [htag.lower_eq, lower_eq_map, List.map_map]
  · exact List.map_congr_left fun c hc => (hchars c hc).1
  · intro c hc
    obtain ⟨d, hd, rfl⟩ := List.mem_map.mp hc
    exact (hchars d hd).2

theorem trim_eq : trim tag = tag :=
  trim_eq_self_of_all fun c hc => by
    have h := forall_isTagChar (p := fun c => !isBlank c) (by decide) (htag.chars c hc)
    simpa using h

end IsTagName

/-! ### Names in documents -/

namespace Uxml

def endsElementName (c : Char) : Bool := c == ' ' || c == '/' || c == '>'

theorem endsElementName_of_mem_tag {control : Control} : ∀ c ∈ control.tag, endsElementName c = false := by
  cases control <;> decide

/-- A name without the prefix of the UI library. -/
def withoutPrefix (name : Text) : Text := if "ui:".toList.isPrefixOf name then name.drop 3 else name

/-- The element that a line opens, without its prefix. -/
def openedElement (line : Text) : Text :=
  withoutPrefix (((line.dropWhile (· == '\t')).drop 1).takeWhile (!endsElementName ·))

/-- In every document and at every place in it, an element with the tag and the type opens with the name, unless it is a label or a button without text. -/
def OpensWith (tag : Text) (type : Option Text) (name : Text) : Prop :=
  ∀ config parent depth attributes children, Entries.get? "type" attributes = type →
    isEmptyCaption (control? tag attributes) children = false →
    (lines config parent depth (.element tag attributes children)).head?.map openedElement = some name

theorem openedElement_startText {tag ending : Text} (htag : ∀ c ∈ tag, endsElementName c = false)
    (hending : ending = "/>".toList ∨ ending = ">".toList) (depth : Nat) (attributes : List (Text × Text)) :
    openedElement (indent depth ++ startText tag attributes ++ ending) = withoutPrefix tag := by
  have hindent : ∀ c ∈ indent depth, (c == '\t') = true := fun c hc => by simp [List.eq_of_mem_replicate hc]
  have hrest : (attributes.flatMap attributeText ++ ending).takeWhile (!endsElementName ·) = [] := by
    cases attributes with
    | nil => rcases hending with rfl | rfl <;> rfl
    | cons pair attributes => rfl
  rw [openedElement, startText, List.append_assoc, List.dropWhile_append_of_pos hindent, List.cons_append,
    List.cons_append, List.dropWhile_cons_of_neg (by decide), List.drop_one, List.tail_cons, List.append_assoc,
    takeWhile_append_of_stop hrest, List.takeWhile_eq_self_iff.mpr fun c hc => by rw [htag c hc]; rfl]

/-- The name that a document gives an element, from its tag and its type. -/
def writtenName (tag : Text) (type : Option Text) : Text :=
  ((Control.ofElement? (lower tag) type).map Control.name).getD (lower tag)

theorem opensWith_writtenName {tag : Text} (hdropped : isDropped tag = false)
    (htag : ∀ c ∈ lower tag, endsElementName c = false ∧ c ≠ ':') (type : Option Text) :
    OpensWith tag type (writtenName tag type) := by
  rintro config parent depth attributes children rfl hcaption
  obtain ⟨ending, inner, hending, hlines⟩ := exists_lines_eq_of_written config (by rw [hdropped, hcaption]; rfl) parent depth
  have hcontrol : control? tag attributes = Control.ofElement? (lower tag) (attributes.get? "type") := rfl
  rw [hlines, List.head?_cons, Option.map_some, openedElement_startText ?chars hending, writtenName, ← hcontrol, tagOf]
  case chars =>
    cases control? tag attributes with
    | none => exact fun c hc => (htag c hc).1
    | some control => exact endsElementName_of_mem_tag
  cases control? tag attributes with
  | none =>
    have hprefix : "ui:".toList.isPrefixOf (lower tag) = false := by
      refine Bool.eq_false_iff.mpr fun h => ?_
      have hmem := (List.isPrefixOf_iff_prefix.mp h).subset (a := ':') (by decide)
      exact (htag ':' hmem).2 rfl
    rw [Option.map_none, Option.getD_none, withoutPrefix, hprefix, if_neg Bool.false_ne_true]
    rfl
  | some control => rfl

theorem writtenName_input (type : Text) :
    writtenName "input" (some type) = ((if type = [] then none else Control.ofInputType? type).getD .textField).name := by
  have hlower : lower "input" = "input".toList := by decide
  have htag : Control.bySelector.get? "input" = some .textField := by decide
  rw [writtenName, hlower, Control.ofElement?, hlower]
  simp only [beq_self_eq_true, if_true, htag]
  cases type with
  | nil => rfl
  | cons c cs =>
    have hfilter : (some (c :: cs)).filter (!·.isEmpty) = some (c :: cs) := rfl
    rw [hfilter, if_neg (List.cons_ne_nil c cs), Option.bind_eq_bind, Option.bind_some]
    cases Control.ofInputType? (c :: cs) <;> rfl

end Uxml

/-! ### Names in selectors -/

namespace Segment

theorem scanned_typeName {name rest : Text} (hne : name ≠ []) (hname : ∀ c ∈ name, isTypeChar c = true)
    (hrest : typeExtent rest = 0) : Scanned [⟨.typeName, name⟩] rest := by
  obtain ⟨c, cs, rfl⟩ := List.exists_cons_of_ne_nil hne
  obtain ⟨hc, hcs⟩ := List.forall_mem_cons.mp hname
  refine scanned_cons.mpr ⟨⟨c, cs, rfl, ?_⟩, scanned_nil rest⟩
  rw [opening_of_isTypeChar hc, textOf_nil, List.nil_append, typeExtent_append_of_all hcs, hrest, Nat.add_zero]

/-- An attribute goes on through the first closer if no backslash stands before it. -/
theorem attributeExtent_closer {s : Text} (hs : ∀ c ∈ s, c ≠ ']' ∧ c ≠ '\\') (rest : Text) :
    attributeExtent (s ++ ']' :: rest) = s.length + 1 := by
  induction s with
  | nil => rfl
  | cons c s ih =>
    obtain ⟨⟨hclose, hescape⟩, hs⟩ := List.forall_mem_cons.mp hs
    rw [List.cons_append, attributeExtent.eq_4 c _ hclose fun _ _ h _ => hescape h, ih hs, List.length_cons]

/-- The attribute that asks for the type. -/
def typeAttribute (type : Text) : Segment := ⟨.attribute, "[type=\"" ++ type ++ "\"]"⟩

theorem typeAttribute_text (type : Text) :
    (typeAttribute type).text = '[' :: ("type=\"".toList ++ type ++ ['"'] ++ [']']) := by
  simp [typeAttribute]

end Segment

/-- A type that can stand between quotes in an attribute as it is. -/
def IsPlainType (type : Text) : Prop := ∀ c ∈ type, isBlank c = false ∧ c ∉ "\"'\\[]".toList

namespace Segment

variable {type : Text} (htype : IsPlainType type)
include htype

theorem scan_inputSelector : scan (Control.inputSelector type) = [⟨.typeName, "input"⟩, typeAttribute type] := by
  have htext : Control.inputSelector type = textOf [⟨.typeName, "input"⟩, typeAttribute type] := by
    have hfront : "input[type=\"".toList = "input".toList ++ "[type=\"".toList := by decide
    change "input[type=\"".toList ++ type ++ "\"]".toList =
      "input".toList ++ ("[type=\"".toList ++ type ++ "\"]".toList ++ [])
    rw [hfront, List.append_nil, List.append_assoc, List.append_assoc, List.append_assoc]
  have hinner : ∀ c ∈ "type=\"".toList ++ type ++ ['"'], c ≠ ']' ∧ c ≠ '\\' := by
    simp only [List.forall_mem_append]
    refine ⟨⟨by decide, fun c hc => ?_⟩, by decide⟩
    constructor <;>
    · rintro rfl
      exact (htype _ hc).2 (by decide)
  have hattribute : Scanned [typeAttribute type] [] := by
    refine scanned_cons.mpr ⟨⟨'[', _, typeAttribute_text type, ?_⟩, scanned_nil []⟩
    rw [textOf_nil, List.append_nil, List.append_nil, opening_bracket, attributeExtent_closer hinner]
    simp only [List.length_append]
    rfl
  have htag : Scanned [⟨.typeName, "input"⟩] (textOf [typeAttribute type] ++ []) := by
    refine scanned_typeName (by decide) (by decide) ?_
    rw [textOf_cons, typeAttribute_text]
    rfl
  rw [htext]
  exact (scanned_append.mpr ⟨htag, hattribute⟩).scan_eq

theorem askedType?_typeAttribute : askedType? (typeAttribute type) = if type = [] then none else some type := by
  let stops (c : Char) : Bool := c == '"' || c == '\'' || c == ']' || isBlank c
  have hkeep : ∀ c ∈ type, (!stops c) = true := by
    intro c hc
    obtain ⟨hblank, hmem⟩ := htype c hc
    simp only [stops, hblank, Bool.or_false, Bool.not_eq_true', Bool.or_eq_false_iff, beq_eq_false_iff_ne]
    refine ⟨⟨?_, ?_⟩, ?_⟩ <;>
    · rintro rfl
      exact hmem (by decide)
  have hvalue : (type ++ ['"', ']']).takeWhile (!stops ·) = type := by
    rw [List.takeWhile_append_of_pos hkeep, show ['"', ']'].takeWhile (!stops ·) = [] by decide, List.append_nil]
  have hclosing : (type ++ ['"', ']']).dropWhile (!stops ·) = ['"', ']'] := by
    rw [List.dropWhile_append_of_pos hkeep, show ['"', ']'].dropWhile (!stops ·) = ['"', ']'] by decide]
  have htext : (typeAttribute type).text = '[' :: 't' :: 'y' :: 'p' :: 'e' :: '=' :: '"' :: (type ++ ['"', ']']) := by
    rw [typeAttribute_text, List.append_assoc, List.append_assoc]
    rfl
  have hkind : ¬(typeAttribute type).kind ≠ .attribute := fun h => h rfl
  rw [askedType?, if_neg hkind, htext]
  -- All that stands in front of the value is known, and computes.
  change (if !((type ++ ['"', ']']).takeWhile (!stops ·)).isEmpty &&
      (if ((type ++ ['"', ']']).dropWhile (!stops ·)).head?.any Nesting.isQuote
        then ((type ++ ['"', ']']).dropWhile (!stops ·)).drop 1
        else (type ++ ['"', ']']).dropWhile (!stops ·)).dropWhile isBlank == [']']
    then some ((type ++ ['"', ']']).takeWhile (!stops ·)) else none) = _
  rw [hvalue, hclosing]
  cases type with
  | nil => rfl
  | cons c cs => rfl

end Segment

namespace Text

/-- Nothing carries over to the lower case of what follows a character that has no case and is not looked through. -/
theorem lowerAfter_append_of_uncased {c : Char} (hcased : isCased c = false) (hignorable : isCaseIgnorable c = false)
    (afterCased : Bool) (s t : Text) :
    lowerAfter afterCased (s ++ c :: t) = lowerAfter afterCased s ++ lowerAfter false (c :: t) := by
  -- A sigma in the front part looks no further than to `c`, which has no case.
  have hstarts : ∀ s : Text, startsCased (s ++ c :: t) = startsCased s := by
    intro s
    rw [startsCased, startsCased, List.dropWhile_append]
    cases h : s.dropWhile isCaseIgnorable with
    | nil => simp [hignorable, hcased]
    | cons d s => rfl
  induction s generalizing afterCased with
  | nil =>
    have hsigma : (c == 'Σ') = false := by
      refine beq_false_of_ne ?_
      rintro rfl
      exact Bool.false_ne_true (hcased.symm.trans (by decide))
    rw [List.nil_append, lowerAfter, lowerAfter, lowerAfter, hsigma, hignorable]
    rfl
  | cons d s ih => rw [List.cons_append, lowerAfter, lowerAfter, ih, hstarts, List.append_assoc]

end Text

theorem Control.lower_inputSelector (type : Text) : lower (inputSelector type) = inputSelector (lower type) := by
  have hform : ∀ t, inputSelector t = "input[type=".toList ++ '"' :: (t ++ ['"', ']']) := by
    intro t
    have hfront : "input[type=\"".toList = "input[type=".toList ++ ['"'] := by decide
    have hback : "\"]".toList = ['"', ']'] := by decide
    change "input[type=\"".toList ++ t ++ "\"]".toList = _
    rw [hfront, hback, List.append_assoc, List.append_assoc]
    rfl
  have hquote : ∀ t, lowerAfter false ('"' :: t) = '"' :: lowerAfter false t := fun t => rfl
  rw [hform, hform, lower, lowerAfter_append_of_uncased (by decide) (by decide), hquote,
    lowerAfter_append_of_uncased (by decide) (by decide)]
  rfl

theorem Control.ofSelector?_eq_ofInputType? {type : Text} (htype : IsPlainType type) :
    ofSelector? (inputSelector type) = ofInputType? type := by
  rw [ofSelector?, Segment.trim_inputSelector, lower_inputSelector, ofInputType?,
    trim_eq_self_of_all fun c hc => (htype c hc).1]

/-! ### Both names -/

theorem IsTagName.scan_eq {tag : Text} (htag : IsTagName tag) : Segment.scan tag = [⟨.typeName, tag⟩] := by
  have hne : tag ≠ [] := by
    rintro rfl
    exact Bool.false_ne_true htag.head
  have hscanned : Segment.Scanned [⟨.typeName, tag⟩] [] :=
    Segment.scanned_typeName hne (fun c hc => forall_isTagChar (by decide) (htag.chars c hc)) rfl
  have hscan := hscanned.scan_eq
  rwa [Segment.textOf_cons, Segment.textOf_nil, List.append_nil] at hscan

/-- The parser of documents puts names in lower case. -/
theorem IsTagName.startTag_eq {tag : Text} (htag : IsTagName tag) (rest : Text) :
    Html.startTag (tag ++ '>' :: rest) = (.tag (lower tag) [] false, tag.length + 1) := by
  have hkeep : ∀ c ∈ tag, (!Html.endsTagName c) = true := fun c hc =>
    forall_isTagChar (p := fun c => !Html.endsTagName c) (by decide) (htag.chars c hc)
  have hname : (tag ++ '>' :: rest).takeWhile (!Html.endsTagName ·) = tag := by
    rw [List.takeWhile_append_of_pos hkeep, List.takeWhile_cons_of_neg (by decide), List.append_nil]
  have hslack : Html.slackExtent ('>' :: rest) = 0 := rfl
  have hattributes : ∀ before, Html.attributes before ('>' :: rest) = ([], 0) := by
    intro before
    rw [Html.attributes, Html.startsAttribute, if_neg]
    simp
  rw [Html.startTag]
  simp only [hname, List.drop_left, hslack, Nat.add_zero, hattributes]

namespace Selector

open Segment

theorem rewrite_of_denylist_eq_nil {policy : Policy} (hpolicy : policy.denylist = []) {raw : Text} (htrim : trim raw = raw)
    (haccepted : ∀ g ∈ scan raw, g.refusal? = none) : (Selector.ofText raw).rewrite policy = .ok (rewriting (scan raw)) := by
  rw [rewrite_of_refusal?_eq_none, rewritten_ofText htrim]
  refine refusal?_eq_none_iff.mpr ⟨fun word _ => breakingMatch?_eq_none_iff.mpr fun fragment hfragment => ?_, haccepted⟩
  rw [hpolicy] at hfragment
  cases hfragment

variable {policy : Policy} (hpolicy : policy.denylist = [])
include hpolicy

theorem rewrite_tag {tag : Text} (htag : IsTagName tag) (hroot : isRootTag tag = false) :
    (Selector.ofText tag).rewrite policy = .ok (((Control.ofSelector? tag).map Control.name).getD tag) := by
  rw [rewrite_of_denylist_eq_nil hpolicy htag.trim_eq, htag.scan_eq]
  · have hcompound : rewriting [⟨.typeName, tag⟩] = rewriteCompound [⟨.typeName, tag⟩] := List.append_nil _
    rw [hcompound, rewriteCompound, hroot, if_neg Bool.false_ne_true, elementName]
  · rw [htag.scan_eq]
    exact List.forall_mem_singleton.mpr rfl

theorem exists_rewrite_inputSelector {type : Text} (htype : IsPlainType type) :
    ∃ rest, typeExtent rest = 0 ∧
      (Selector.ofText (Control.inputSelector type)).rewrite policy = .ok (Uxml.writtenName "input" (some type) ++ rest) := by
  rw [rewrite_of_denylist_eq_nil hpolicy (trim_inputSelector type), scan_inputSelector htype]
  · have hcompound : rewriting [⟨.typeName, "input"⟩, typeAttribute type] =
        rewriteCompound [⟨.typeName, "input"⟩, typeAttribute type] := List.append_nil _
    have htyped : typedInput? "input" (typeAttribute type) =
        if type = [] then none else Control.ofInputType? type := by
      rw [typedInput?, if_pos (by decide), askedType?_typeAttribute htype]
      split
      · rfl
      · exact Control.ofSelector?_eq_ofInputType? htype
    have hplain : elementName "input" = Control.textField.name := by decide
    have hrest : typeExtent (textOf [typeAttribute type]) = 0 := by
      rw [textOf_cons, typeAttribute_text]
      rfl
    rw [hcompound, rewriteCompound, htyped, Uxml.writtenName_input]
    split
    · rename_i control hcontrol
      exact ⟨[], rfl, by rw [hcontrol]; rfl⟩
    · rename_i hcontrol
      exact ⟨_, hrest, by rw [hcontrol, hplain]; rfl⟩
  · rw [scan_inputSelector htype]
    exact List.forall_mem_cons.mpr ⟨rfl, List.forall_mem_singleton.mpr rfl⟩

end Selector

/-! ### Agreement -/

theorem Uxml.writtenName_tag {tag : Text} (htag : IsTagName tag) :
    writtenName (lower tag) none = ((Control.ofSelector? tag).map Control.name).getD (lower tag) := by
  have hcontrol : Control.ofElement? (lower (lower tag)) none = Control.ofSelector? tag := by
    rw [Control.ofElement?, htag.lower_lower, htag.lower_lower, Control.ofSelector?, htag.trim_eq]
    split <;> rfl
  rw [writtenName, hcontrol, htag.lower_lower]

/--
Where nothing is denied, a selector for a tag comes to the name that documents give the element, except that a tag without an entry in the table keeps its capitals; a selector for the inputs of a type comes to a compound whose type name is theirs.
-/
theorem elementNames_agree {policy : Policy} (hpolicy : policy.denylist = []) :
    (∀ tag, IsTagName tag → Segment.isRootTag tag = false → Uxml.isDropped tag = false →
      (∀ rest, (Html.startTag (tag ++ '>' :: rest)).1 = .tag (lower tag) [] false) ∧
      ∃ name text, Uxml.OpensWith (lower tag) none name ∧ (Selector.ofText tag).rewrite policy = .ok text ∧
        (text = name ↔ lower tag = tag ∨ (Control.ofSelector? tag).isSome) ∧
        (Control.ofSelector? tag = none → name = lower tag ∧ text = tag)) ∧
    ∀ type, IsPlainType type → ∃ name text, Uxml.OpensWith "input" (some type) name ∧
      (Selector.ofText (Control.inputSelector type)).rewrite policy = .ok text ∧
      (Segment.scan text).head? = some ⟨.typeName, name⟩ := by
  constructor
  · intro tag htag hroot hdropped
    refine ⟨fun rest => by rw [htag.startTag_eq], _, _, Uxml.opensWith_writtenName ?dropped ?chars none,
      Selector.rewrite_tag hpolicy htag hroot, ?_, ?_⟩
    case dropped => rwa [Uxml.isDropped, htag.lower_lower]
    case chars =>
      rw [htag.lower_lower, htag.lower_eq]
      intro c hc
      obtain ⟨d, hd, rfl⟩ := List.mem_map.mp hc
      have h := forall_isTagChar (p := fun d => !Uxml.endsElementName d.toLower && d.toLower != ':') (by decide)
        (htag.chars d hd)
      simpa using h
    · rw [Uxml.writtenName_tag htag]
      cases Control.ofSelector? tag with
      | none => simp [eq_comm]
      | some control => simp
    · intro hnone
      rw [Uxml.writtenName_tag htag, hnone]
      exact ⟨rfl, rfl⟩
  · intro type htype
    obtain ⟨rest, hrest, hrewrite⟩ := Selector.exists_rewrite_inputSelector hpolicy htype
    refine ⟨_, _, Uxml.opensWith_writtenName (by decide) (by decide) (some type), hrewrite, ?_⟩
    rw [Uxml.writtenName_input]
    generalize (if type = [] then none else Control.ofInputType? type).getD .textField = control
    have hscanned := Segment.scanned_typeName control.name_ne_nil (fun c hc => (Control.mem_name hc).1) hrest
    rw [Segment.Scanned, Segment.textOf_cons, Segment.textOf_nil, List.append_nil] at hscanned
    rw [hscanned]
    rfl

/-- A tag of the table in capitals, and a type of it. -/
theorem elementNames_agree_section :
    (Policy.ofTables [] []).denylist = [] ∧
      (∃ name, Uxml.OpensWith "section" none name ∧
        (Selector.ofText "SECTION").rewrite (Policy.ofTables [] []) = .ok name) ∧
      ∃ name text, Uxml.OpensWith "input" (some "checkbox") name ∧
        (Selector.ofText (Control.inputSelector "checkbox")).rewrite (Policy.ofTables [] []) = .ok text ∧
        (Segment.scan text).head? = some ⟨.typeName, name⟩ := by
  have hpolicy : (Policy.ofTables [] []).denylist = [] := rfl
  obtain ⟨htags, htypes⟩ := elementNames_agree hpolicy
  obtain ⟨-, name, text, hopens, hrewrite, hsame, -⟩ := htags "SECTION" ⟨by decide, by decide⟩ (by decide) (by decide)
  obtain rfl := hsame.mpr (.inr (by decide))
  exact ⟨hpolicy, ⟨text, hopens, hrewrite⟩, htypes "checkbox" (by unfold IsPlainType; decide)⟩

/-- A tag in capitals that the table does not have. -/
theorem elementNames_differ_foo :
    ¬∃ name, Uxml.OpensWith (lower "FOO") none name ∧
      (Selector.ofText "FOO").rewrite (Policy.ofTables [] []) = .ok name := by
  rintro ⟨name, hopens, hrewrite⟩
  have hname := hopens .empty none 1 [] [] rfl (by decide)
  have hwritten : (Selector.ofText "FOO").rewrite (Policy.ofTables [] []) = .ok "FOO" := by decide +kernel
  rw [hwritten] at hrewrite
  obtain rfl := Except.ok.inj hrewrite
  exact absurd hname (by decide)

end UiToolkit
