import UiToolkit.Css.Printer
import UiToolkit.Proofs.Lexing

/-!
# Openings of comments in written nodes

No comment is read into a lexeme, yet comments may open in what is written. Apart from strings and addresses no lexeme has one in its own text, so that all others are made where two neighbours meet: by the empty comment that keeps them apart, or by a slash at the end of one and a star at the start of the other. The openings in a written text are counted here, those of strings and addresses by themselves.
-/

namespace UiToolkit

namespace Text

/-- At how many places of a text a comment opens. -/
def openings : Text → Nat
  | [] => 0
  | c :: cs => (if c == '/' && cs.head? == some '*' then 1 else 0) + openings cs

theorem openings_pos_iff {s : Text} : 0 < openings s ↔ ['/', '*'] <:+: s := by
  induction s with
  | nil => decide
  | cons c s ih =>
    have hopens : (c == '/' && s.head? == some '*') = true ↔ ['/', '*'] <+: c :: s := by
      cases s with
      | nil => simp
      | cons d s => simp [List.cons_prefix_cons, @eq_comm Char '/', @eq_comm Char '*']
    rw [openings, List.infix_cons_iff, ← hopens, ← ih]
    split
    · rename_i h
      exact iff_of_true (by omega) (.inl h)
    · rename_i h
      rw [Nat.zero_add, or_iff_right h]

/-- Whether a comment opens where two texts meet. -/
def openingBetween (s t : Text) : Nat := if s.getLast? == some '/' && t.head? == some '*' then 1 else 0

theorem openings_append (s t : Text) : openings (s ++ t) = openings s + openingBetween s t + openings t := by
  induction s with
  | nil => simp [openings, openingBetween]
  | cons c s ih =>
    cases s with
    | nil => simp [openings, openingBetween]
    | cons d s =>
      have hbetween : openingBetween (c :: d :: s) t = openingBetween (d :: s) t := by
        rw [openingBetween, openingBetween, List.getLast?_cons_cons]
      rw [List.cons_append, openings, ih, openings.eq_2 c, hbetween, List.cons_append, List.head?_cons, List.head?_cons]
      omega

theorem openings_toList (c : Option Char) : openings c.toList = 0 := by
  cases c <;> simp [openings]

theorem openingBetween_of_star {t : Text} (ht : t.head? ≠ some '*') (s : Text) : openingBetween s t = 0 := by
  rw [openingBetween, beq_false_of_ne ht, Bool.and_false]
  rfl

theorem openingBetween_of_slash {s : Text} (hs : s.getLast? ≠ some '/') (t : Text) : openingBetween s t = 0 := by
  rw [openingBetween, beq_false_of_ne hs]
  rfl

/-- A nonempty text meets what stands in front of it and behind it in its first and last characters. -/
theorem openings_append_append {t : Text} (ht : t ≠ []) (s r : Text) :
    openings (s ++ (t ++ r)) = openings (s ++ t.head?.toList) + openings t + openings (t.getLast?.toList ++ r) := by
  obtain ⟨c, cs, rfl⟩ := List.exists_cons_of_ne_nil ht
  have hfront : openingBetween s (c :: cs ++ r) = openingBetween s (c :: cs).head?.toList := rfl
  have hback : openingBetween (c :: cs) r = openingBetween (c :: cs).getLast?.toList r := by
    rw [openingBetween, openingBetween, List.getLast?_cons, Option.toList_some, List.getLast?_singleton]
  rw [openings_append, openings_append (c :: cs) r, openings_append s, openings_append _ r, openings_toList, openings_toList,
    hfront, hback]
  omega

theorem openings_of_slash {s : Text} (hs : '/' ∉ s) : openings s = 0 := by
  induction s with
  | nil => rfl
  | cons c s ih =>
    rw [List.mem_cons, not_or] at hs
    rw [openings, beq_false_of_ne (Ne.symm hs.1), ih hs.2]
    rfl

theorem openings_of_star {s : Text} (hs : '*' ∉ s) : openings s = 0 := by
  induction s with
  | nil => rfl
  | cons c s ih =>
    rw [List.mem_cons, not_or] at hs
    have hhead : s.head? ≠ some '*' := fun h => hs.2 (List.mem_of_mem_head? h)
    rw [openings, beq_false_of_ne hhead, Bool.and_false, ih hs.2]
    rfl

theorem openings_append_of_slash {s : Text} (hs : '/' ∉ s) (t : Text) : openings (s ++ t) = openings t := by
  have hlast : s.getLast? ≠ some '/' := fun h => hs (List.mem_of_getLast? h)
  rw [openings_append, openings_of_slash hs, openingBetween_of_slash hlast, Nat.zero_add]

theorem openings_append_of_star {t : Text} (ht : '*' ∉ t) (s : Text) : openings (s ++ t) = openings s := by
  have hhead : t.head? ≠ some '*' := fun h => ht (List.mem_of_mem_head? h)
  rw [openings_append, openings_of_star ht, openingBetween_of_star hhead, Nat.add_zero]

/-- No comment opens in the text, not even with a slash in front of it. -/
structure IsQuiet (s : Text) : Prop where
  openings_eq : openings s = 0
  head_ne : s.head? ≠ some '*'

theorem isQuiet_of_star {s : Text} (hs : '*' ∉ s) : IsQuiet s :=
  ⟨openings_of_star hs, fun h => hs (List.mem_of_mem_head? h)⟩

theorem isQuiet_escaped (c : Char) : IsQuiet ['\\', c] := ⟨by simp [openings], by simp⟩

theorem IsQuiet.append {s t : Text} (hs : IsQuiet s) (ht : IsQuiet t) : IsQuiet (s ++ t) where
  openings_eq := by rw [openings_append, hs.openings_eq, ht.openings_eq, openingBetween_of_star ht.head_ne]
  head_ne := by
    cases s with
    | nil => exact ht.head_ne
    | cons c s => exact hs.head_ne

theorem isQuiet_flatMap {f : Char → Text} (hf : ∀ c, IsQuiet (f c)) (s : Text) : IsQuiet (s.flatMap f) := by
  induction s with
  | nil => exact isQuiet_of_star (by simp)
  | cons c s ih =>
    rw [List.flatMap_cons]
    exact (hf c).append ih

end Text

namespace Css

open Text

/-! ### Written names -/

theorem star_notMem_hexText (n : Nat) : '*' ∉ hexText n := by
  have hdigit : ∀ m < 16, (Nat.digitChar m).toUpper ≠ '*' := by decide
  rw [hexText]
  induction n using Nat.strongRecOn with
  | ind n ih =>
    rw [Nat.toDigits_eq_if (by omega)]
    split
    · rename_i hn
      simpa using (hdigit n hn).symm
    · rename_i hn
      rw [List.map_append, List.mem_append, not_or]
      refine ⟨ih (n / 16) (by omega), ?_⟩
      simpa using (hdigit (n % 16) (Nat.mod_lt _ (by omega))).symm

def lineEndTexts : List Text := ["\\A ", "\\D ", "\\C "]

theorem mem_of_escapedLineEnd? {c : Char} {text : Text} (h : escapedLineEnd? c = some text) : text ∈ lineEndTexts := by
  unfold escapedLineEnd? at h
  split at h
  · cases h
    decide
  · split at h
    · cases h
      decide
    · split at h
      · cases h
        decide
      · cases h

theorem star_notMem_escapedLineEnd? {c : Char} {text : Text} (h : escapedLineEnd? c = some text) : '*' ∉ text :=
  (by decide : ∀ text ∈ lineEndTexts, '*' ∉ text) text (mem_of_escapedLineEnd? h)

theorem isQuiet_escapeNameChar (c : Char) : IsQuiet (escapeNameChar c) := by
  unfold escapeNameChar
  split
  · rename_i text htext
    exact isQuiet_of_star (star_notMem_escapedLineEnd? htext)
  · split
    · rename_i hc
      apply isQuiet_of_star
      rw [List.mem_singleton]
      rintro rfl
      cases hc
    · exact isQuiet_escaped c

theorem isQuiet_nameText (name : Text) : IsQuiet (nameText name) := isQuiet_flatMap isQuiet_escapeNameChar name

theorem isQuiet_escapeNameStart (c : Char) : IsQuiet (escapeNameStart c) := by
  unfold escapeNameStart
  split
  · rename_i text htext
    exact isQuiet_of_star (star_notMem_escapedLineEnd? htext)
  · split
    · rename_i hc
      apply isQuiet_of_star
      rw [List.mem_singleton]
      rintro rfl
      cases hc
    · split
      · apply isQuiet_of_star
        simp [star_notMem_hexText]
      · exact isQuiet_escaped c

theorem isQuiet_identText (name : Text) : IsQuiet (identText name) := by
  have hhyphen : IsQuiet ['-'] := isQuiet_of_star (by decide)
  unfold identText
  split
  · exact isQuiet_of_star (by decide)
  · exact isQuiet_of_star (by decide)
  · exact (isQuiet_of_star (s := "--".toList) (by decide)).append (isQuiet_nameText _)
  · exact (hhyphen.append (isQuiet_escapeNameStart _)).append (isQuiet_nameText _)
  · exact (isQuiet_escapeNameStart _).append (isQuiet_nameText _)

theorem isQuiet_unitText (unit : Text) : IsQuiet (unitText unit) := by
  unfold unitText
  split
  · exact isQuiet_of_star (by decide)
  · split
    · exact (isQuiet_of_star (s := "\\65 ".toList) (by decide)).append (isQuiet_nameText _)
    · exact isQuiet_identText _

theorem star_notMem_rangeText (first last : Nat) : '*' ∉ rangeText first last := by
  unfold rangeText
  split
  · simp [star_notMem_hexText]
  · simp [star_notMem_hexText]

/-! ### Written lexemes -/

/-- A string or an address, which may hold any characters. -/
def Lexeme.isSealed : Lexeme → Bool
  | .string _ _ => true
  | .url _ _ => true
  | _ => false

/-- A lexeme as the scanner makes it: with some text, in which no comment opens outside of strings and addresses. -/
structure Lexeme.IsProper (l : Lexeme) : Prop where
  ne_nil : l.toText ≠ []
  quiet : l.isSealed = false → openings l.toText = 0

namespace Lexeme

theorem isProper_of_isQuiet {l : Lexeme} (hne : l.toText ≠ []) (h : IsQuiet l.toText) : l.IsProper :=
  ⟨hne, fun _ => h.openings_eq⟩

theorem isProper_string (value : Text) (closed : Bool) : (string value closed).IsProper :=
  ⟨List.cons_ne_nil _ _, fun h => nomatch h⟩

theorem isProper_url (value : Text) (closed : Bool) : (url value closed).IsProper :=
  ⟨List.cons_ne_nil _ _, fun h => nomatch h⟩

theorem isProper_badString : badString.IsProper := isProper_of_isQuiet (by decide) (isQuiet_of_star (by decide))

theorem isProper_badUrl : badUrl.IsProper := isProper_of_isQuiet (by decide) (isQuiet_of_star (by decide))

theorem isProper_call (name : Text) : (call name).IsProper :=
  isProper_of_isQuiet (List.append_ne_nil_of_right_ne_nil _ (List.cons_ne_nil _ _))
    ((isQuiet_identText name).append (isQuiet_of_star (by decide)))

theorem isProper_atKeyword (name : Text) : (atKeyword name).IsProper :=
  isProper_of_isQuiet (List.cons_ne_nil _ _) ((isQuiet_of_star (s := ['@']) (by decide)).append (isQuiet_identText name))

theorem isProper_hash (name : Text) (isIdent : Bool) : (hash name isIdent).IsProper := by
  have hhash : IsQuiet ['#'] := isQuiet_of_star (by decide)
  refine isProper_of_isQuiet (List.cons_ne_nil _ _) ?_
  cases isIdent with
  | false => exact hhash.append (isQuiet_nameText name)
  | true => exact hhash.append (isQuiet_identText name)

theorem isProper_unicodeRange (first last : Nat) : (unicodeRange first last).IsProper :=
  isProper_of_isQuiet (List.cons_ne_nil _ _) (isQuiet_of_star (star_notMem_rangeText first last))

/-- A single character opens no comment. -/
theorem isProper_of_singleton {l : Lexeme} {c : Char} (h : l.toText = [c]) : l.IsProper := by
  refine ⟨h ▸ List.cons_ne_nil _ _, fun _ => ?_⟩
  rw [h]
  simp [openings]

end Lexeme

theorem escapeNameStart_ne_nil (c : Char) : escapeNameStart c ≠ [] := by
  unfold escapeNameStart
  split
  · rename_i text htext
    exact (by decide : ∀ text ∈ lineEndTexts, text ≠ []) text (mem_of_escapedLineEnd? htext)
  · split
    · exact List.cons_ne_nil _ _
    · split
      · exact List.cons_ne_nil _ _
      · exact List.cons_ne_nil _ _

theorem identText_ne_nil {name : Text} (h : name ≠ []) : identText name ≠ [] := by
  unfold identText
  split
  · exact absurd rfl h
  · decide
  · exact List.cons_ne_nil _ _
  · exact List.cons_ne_nil _ _
  · exact List.append_ne_nil_of_left_ne_nil (escapeNameStart_ne_nil _) _

/-- Where an identifier starts there is a name. -/
theorem name_ne_nil {s : Text} (h : startsIdent s = true) : (name s).1 ≠ [] := by
  have hstart : ∀ {c : Char} {cs : Text}, (isNameChar c || (c == '\\' && escapes cs)) = true → (name (c :: cs)).1 ≠ [] := by
    intro c cs h
    rw [name_cons]
    split
    · exact List.cons_ne_nil _ _
    · rename_i hname
      rw [(Bool.not_eq_true _).mp hname, Bool.false_or] at h
      rw [if_pos h]
      exact List.cons_ne_nil _ _
  unfold startsIdent at h
  split at h
  · cases h
  · exact hstart (by simp [isNameChar])
  · rename_i c cs _
    apply hstart
    rw [Bool.or_eq_true] at h ⊢
    refine h.imp_left fun hname => ?_
    rw [isNameChar, hname]
    rfl

/-! ### Written numbers -/

theorem star_notMem_take_digitExtent (s : Text) : '*' ∉ s.take (digitExtent s) := by
  intro h
  rw [digitExtent, take_length_takeWhile] at h
  exact absurd (List.mem_takeWhile_imp h) (by decide)

theorem star_notMem_take_signExtent (s : Text) : '*' ∉ s.take (signExtent s) := by
  cases s with
  | nil => simp
  | cons c cs =>
    rw [signExtent]
    split
    · rename_i hsign
      rintro h
      rw [List.take_succ_cons, List.take_zero, List.mem_singleton] at h
      rw [← h] at hsign
      cases hsign
    · simp

theorem star_notMem_take_mantissaExtent (s : Text) : '*' ∉ s.take (mantissaExtent s) := by
  have hdigits := star_notMem_take_digitExtent s
  change '*' ∉ s.take (if fractionExtent (s.drop (digitExtent s)) = 0 then digitExtent s
    else digitExtent s + 1 + fractionExtent (s.drop (digitExtent s)))
  split
  · exact hdigits
  · rename_i hfraction
    have hpoint : '*' ∉ (s.drop (digitExtent s)).take (1 + fractionExtent (s.drop (digitExtent s))) := by
      unfold fractionExtent at hfraction ⊢
      split at hfraction
      · rename_i rest hrest
        rw [hrest, Nat.add_comm, List.take_succ_cons, List.mem_cons, not_or]
        exact ⟨by decide, star_notMem_take_digitExtent rest⟩
      · exact absurd rfl hfraction
    rw [Nat.add_assoc, List.take_add, List.mem_append, not_or]
    exact ⟨hdigits, hpoint⟩

theorem star_notMem_take_exponentExtent (s : Text) : '*' ∉ s.take (exponentExtent s) := by
  cases s with
  | nil => simp
  | cons e cs =>
    rw [exponentExtent]
    split
    · rename_i he
      change '*' ∉ (e :: cs).take (if digitExtent (cs.drop (signExtent cs)) = 0 then 0
        else 1 + signExtent cs + digitExtent (cs.drop (signExtent cs)))
      split
      · simp
      · have hmark : '*' ≠ e := by
          rintro rfl
          cases he
        rw [Nat.add_assoc, Nat.add_comm, List.take_succ_cons, List.take_add, List.mem_cons, List.mem_append, not_or, not_or]
        exact ⟨hmark, star_notMem_take_signExtent cs, star_notMem_take_digitExtent _⟩
    · simp

theorem star_notMem_take_numberExtent (s : Text) : '*' ∉ s.take (numberExtent s) := by
  rw [numberExtent_eq]
  split
  · simp
  · rw [Nat.add_assoc, List.take_add, List.take_add, List.mem_append, List.mem_append, not_or, not_or, ← List.drop_drop]
    exact ⟨star_notMem_take_signExtent s, star_notMem_take_mantissaExtent _, star_notMem_take_exponentExtent _⟩

/-! ### Lexemes that are read -/

open Lexeme

theorem isProper_urlLexeme (cs : Text) : (urlLexeme cs).1.IsProper := by
  unfold urlLexeme
  dsimp only
  split
  · exact isProper_url _ _
  · exact isProper_url _ _
  · exact isProper_badUrl

theorem isProper_identLexeme {s : Text} (h : startsIdent s = true) : (identLexeme s).1.IsProper := by
  have hname := name_ne_nil h
  unfold identLexeme
  dsimp only
  split
  · split
    · exact isProper_urlLexeme _
    · exact isProper_call _
  · exact isProper_of_isQuiet (identText_ne_nil hname) (isQuiet_identText _)

theorem isProper_numberLexeme {s : Text} (h : numberExtent s ≠ 0) : (numberLexeme s (numberExtent s)).1.IsProper := by
  have hquiet := isQuiet_of_star (star_notMem_take_numberExtent s)
  have hne : s.take (numberExtent s) ≠ [] := by
    rw [Ne, List.take_eq_nil_iff, not_or]
    refine ⟨h, ?_⟩
    rintro rfl
    exact h rfl
  unfold numberLexeme
  dsimp only
  split
  · exact isProper_of_isQuiet (List.append_ne_nil_of_left_ne_nil hne _) (hquiet.append (isQuiet_unitText _))
  · split
    · exact isProper_of_isQuiet (List.append_ne_nil_of_left_ne_nil hne _) (hquiet.append (isQuiet_of_star (by decide)))
    · exact isProper_of_isQuiet hne hquiet

theorem isProper_stringLexeme (quote : Char) (cs : Text) : (stringLexeme quote cs).1.IsProper := by
  unfold stringLexeme
  dsimp only
  split
  · exact isProper_string _ _
  · exact isProper_string _ _
  · exact isProper_badString

theorem isProper_unicodeRange_fst (cs : Text) : (Css.unicodeRange cs).1.IsProper := by
  unfold Css.unicodeRange
  dsimp only
  split
  · exact isProper_unicodeRange _ _
  · split
    · split <;> exact isProper_unicodeRange _ _
    · exact isProper_unicodeRange _ _

theorem isProper_space {c : Char} (hc : isSpace c = true) (cs : Text) : (space ((c :: cs).takeWhile isSpace)).IsProper := by
  have hne : (c :: cs).takeWhile isSpace ≠ [] := by
    rw [List.takeWhile_cons, if_pos hc]
    exact List.cons_ne_nil _ _
  exact isProper_of_isQuiet hne (isQuiet_of_star fun hstar => absurd (List.mem_takeWhile_imp hstar) (by decide))

theorem isProper_literal_of_star {text : Text} (hne : text ≠ []) (h : '*' ∉ text) : (literal text).IsProper :=
  isProper_of_isQuiet hne (isQuiet_of_star h)

theorem isProper_literal (c : Char) (cs : Text) : (literal ((c :: cs).take (literalExtent (c :: cs)))).IsProper := by
  have hword : ∀ word : Text, word ≠ [] → '*' ∉ word → word.isPrefixOf (c :: cs) = true →
      (literal ((c :: cs).take word.length)).IsProper := by
    intro word hne hstar hstarts
    obtain ⟨rest, hrest⟩ := List.isPrefixOf_iff_prefix.mp hstarts
    rw [← hrest, List.take_left]
    exact isProper_literal_of_star hne hstar
  rw [literalExtent_eq]
  split
  · rename_i hcomment
    exact hword "<!--" (by decide) (by decide) hcomment
  · split
    · rename_i hbars
      exact hword "||" (by decide) (by decide) hbars
    · split
      · rename_i hequals
        obtain ⟨hsecond, hfirst⟩ := Bool.and_eq_true_iff.mp hequals
        rw [List.head?_cons, Option.any_some, List.contains_iff_mem] at hfirst
        have hslash : '/' ≠ c := by
          rintro rfl
          exact absurd hfirst (by decide)
        obtain ⟨d, ds, rfl⟩ : ∃ d ds, cs = d :: ds := List.exists_cons_of_ne_nil fun hnil => by rw [hnil] at hsecond; cases hsecond
        rw [List.tail_cons, List.head?_cons, Option.any_some, beq_iff_eq] at hsecond
        have hplain : '/' ∉ [c, d] := by simp [hslash, hsecond]
        exact ⟨List.cons_ne_nil _ _, fun _ => openings_of_slash hplain⟩
      · exact isProper_of_singleton rfl

/-- The lexeme that is read, if there is one, is proper. -/
def ReadsProper (read : Option Lexeme × Nat) : Prop := ∀ l ∈ read.1, l.IsProper

theorem readsProper_some {l : Lexeme} (h : l.IsProper) (n : Nat) : ReadsProper (some l, n) := by
  intro m hm
  rwa [← Option.some.inj hm]

theorem readsProper_next (c : Char) (cs : Text) : ReadsProper (next c cs) := by
  apply next_cases
  case space => exact fun hspace => readsProper_some (isProper_space hspace cs) _
  case range => exact readsProper_some (isProper_unicodeRange_fst (cs.drop 1)) _
  case arrow => exact fun _ => readsProper_some (isProper_literal_of_star (by decide) (by decide)) _
  case ident => exact fun hident => readsProper_some (isProper_identLexeme hident) _
  case number => exact fun hnumber => readsProper_some (isProper_numberLexeme hnumber) _
  case keyword => exact readsProper_some (isProper_atKeyword _) _
  case hash => exact readsProper_some (isProper_hash _ _) _
  case opener => exact readsProper_some (isProper_of_singleton rfl) _
  case closer => exact readsProper_some (isProper_of_singleton rfl) _
  case string => exact readsProper_some (isProper_stringLexeme c cs) _
  case comment => exact fun _ => nofun
  case literal => exact readsProper_some (isProper_literal c cs) _

theorem isProper_of_mem_scan {s : Text} {l : Lexeme} (h : l ∈ Lexeme.scan s) : l.IsProper := by
  induction hlength : s.length using Nat.strongRecOn generalizing s with
  | ind n ih =>
    cases s with
    | nil =>
      rw [scan_nil] at h
      cases h
    | cons c cs =>
      rw [scan_cons, List.mem_append, Option.mem_toList] at h
      rcases h with h | h
      · exact readsProper_next c cs l h
      · exact ih _ (by rw [List.length_drop, ← hlength, List.length_cons]; omega) h rfl

/-! ### Written nodes -/

namespace Node

mutual

/-- What the lexemes of a node and the neighbours in it count, added up. -/
def total (leaf : Lexeme → Nat) (pair : Node → Node → Nat) : Node → Nat
  | .leaf lexeme => leaf lexeme
  | .block _ content => listTotal leaf pair none content
  | .call _ arguments => listTotal leaf pair none arguments

/-- What nodes count that stand after a neighbour, if there is one. -/
def listTotal (leaf : Lexeme → Nat) (pair : Node → Node → Nat) (before : Option Node) : List Node → Nat
  | [] => 0
  | node :: nodes =>
    (before.map fun neighbour => pair neighbour node).getD 0 + total leaf pair node + listTotal leaf pair (some node) nodes

end

mutual

def lexemes : Node → List Lexeme
  | .leaf lexeme => [lexeme]
  | .block _ content => listLexemes content
  | .call _ arguments => listLexemes arguments

def listLexemes : List Node → List Lexeme
  | [] => []
  | node :: nodes => lexemes node ++ listLexemes nodes

end

def sealedIn (lexeme : Lexeme) : Nat := if lexeme.isSealed then openings lexeme.toText else 0

/-- The openings in what is written between two neighbours, together with the characters at either side. -/
def openedBetween (a b : Node) : Nat :=
  openings (a.toText.getLast?.toList ++ (a.shape.separator b.shape ++ b.toText.head?.toList))

/-- The openings in the strings and addresses of the nodes. -/
def sealedOpenings (nodes : List Node) : Nat := listTotal sealedIn (fun _ _ => 0) none nodes

/-- The openings where neighbours meet, at any depth. -/
def jointOpenings (nodes : List Node) : Nat := listTotal (fun _ => 0) openedBetween none nodes

theorem openings_bracketed {opener closer : Char} (hopener : opener ≠ '/') (hcloser : closer ≠ '*') (s : Text) :
    openings (opener :: (s ++ [closer])) = openings s := by
  have hfront := openings_append_of_slash (s := [opener]) (by simpa using hopener.symm) (s ++ [closer])
  have hback := openings_append_of_star (t := [closer]) (by simpa using hcloser.symm) s
  exact hfront.trans hback

mutual

theorem openings_toText {node : Node} (h : ∀ l ∈ lexemes node, l.IsProper) :
    toText node ≠ [] ∧
      openings (toText node) = total sealedIn (fun _ _ => 0) node + total (fun _ => 0) openedBetween node := by
  cases node with
  | leaf lexeme =>
    have hproper := h lexeme (by simp [lexemes])
    refine ⟨hproper.ne_nil, ?_⟩
    rw [total, total, Nat.add_zero, sealedIn, toText]
    split
    · rfl
    · rename_i hsealed
      exact hproper.quiet ((Bool.not_eq_true _).mp hsealed)
  | block bracket content =>
    have hcontent := openings_listText none (show ∀ l ∈ listLexemes content, l.IsProper by simpa [lexemes] using h)
    refine ⟨by simp [toText], ?_⟩
    rw [toText, total, total, ← hcontent]
    refine (openings_bracketed ?_ ?_ _).trans rfl
    · cases bracket <;> decide
    · cases bracket <;> decide
  | call name arguments =>
    have harguments := openings_listText none (show ∀ l ∈ listLexemes arguments, l.IsProper by simpa [lexemes] using h)
    have hclose : '*' ∉ (if endsCut arguments then [] else [')']) := by split <;> simp
    have hopen : openings ('(' :: listText none arguments) = openings (listText none arguments) :=
      openings_append_of_slash (s := ['(']) (by decide) _
    refine ⟨by simp [toText], ?_⟩
    rw [toText, total, total, ← harguments, openings_append_of_star hclose, openings_append,
      (isQuiet_identText name).openings_eq, openingBetween_of_star (by simp), hopen, Nat.zero_add]
    rfl

theorem openings_listText (before : Option Node) {nodes : List Node} (h : ∀ l ∈ listLexemes nodes, l.IsProper) :
    openings ((before.bind fun neighbour => (toText neighbour).getLast?).toList ++ listText (before.map shape) nodes) =
      listTotal sealedIn (fun _ _ => 0) before nodes + listTotal (fun _ => 0) openedBetween before nodes := by
  cases nodes with
  | nil => simp [listText, listTotal, openings_toList]
  | cons node nodes =>
    rw [listLexemes, List.forall_mem_append] at h
    obtain ⟨hne, hnode⟩ := openings_toText h.1
    have hnodes := openings_listText (some node) h.2
    have hwritten : listText (before.map shape) (node :: nodes) =
        ((before.map fun neighbour => neighbour.shape.separator node.shape).getD [] ++ toText node) ++
          listText (some node.shape) nodes := by
      cases before <;> rw [listText.eq_def] <;> rfl
    have hfront : openings ((before.bind fun neighbour => (toText neighbour).getLast?).toList ++
        ((before.map fun neighbour => neighbour.shape.separator node.shape).getD [] ++ (toText node).head?.toList)) =
          (before.map fun neighbour => openedBetween neighbour node).getD 0 := by
      cases before with
      | none => exact openings_toList _
      | some neighbour => rfl
    have hback : openings ((toText node).getLast?.toList ++ listText (some node.shape) nodes) = _ := hnodes
    have hnothing : (before.map fun _ => 0).getD 0 = 0 := by cases before <;> rfl
    rw [hwritten, List.append_assoc, ← List.append_assoc, openings_append_append hne, List.append_assoc, hfront, hnode, hback,
      listTotal, listTotal, hnothing]
    omega

end

/-- The openings in the text of nodes are those in its strings and addresses, and those where neighbours meet. -/
theorem openings_print {nodes : List Node} (h : ∀ l ∈ listLexemes nodes, l.IsProper) :
    openings (print nodes) = sealedOpenings nodes + jointOpenings nodes :=
  openings_listText none h

/-! ### Neighbours that meet -/

/-- An empty comment keeps the neighbours apart, or a slash and a star meet. -/
def joins (a b : Node) : Bool :=
  a.shape.runsInto b.shape || (a.toText.getLast? == some '/' && b.toText.head? == some '*')

mutual

/-- Somewhere inside of the node two neighbours join. -/
def hasJoint : Node → Bool
  | .leaf _ => false
  | .block _ content => listHasJoint none content
  | .call _ arguments => listHasJoint none arguments

/-- Two neighbours join, of the nodes, of those inside them, or where the nodes stand after a neighbour. -/
def listHasJoint (before : Option Node) : List Node → Bool
  | [] => false
  | node :: nodes => before.any (joins · node) || hasJoint node || listHasJoint (some node) nodes

end

theorem toText_of_shape_eq_literal {node : Node} {text : Text} (h : node.shape = .literal text) : node.toText = text := by
  unfold shape at h
  split at h
  all_goals first | (cases h; rw [toText]; rfl) | cases h

theorem openedBetween_pos_iff {a b : Node} : 0 < openedBetween a b ↔ a.joins b = true := by
  unfold openedBetween joins Shape.separator
  by_cases hruns : a.shape.runsInto b.shape = true
  · have hcomment : openings (a.toText.getLast?.toList ++ ("/**/".toList ++ b.toText.head?.toList)) = _ :=
      openings_append_append (by decide) _ _
    have hopened : openings "/**/".toList = 1 := rfl
    rw [if_pos hruns, hruns, Bool.true_or, iff_true_right rfl]
    refine lt_of_lt_of_eq ?_ hcomment.symm
    omega
  rw [if_neg hruns, (Bool.not_eq_true _).mp hruns, Bool.false_or]
  by_cases hescape : (a.shape == Shape.lit "\\" && decide (b.shape ≠ .space true)) = true
  · -- the line end after a backslash is neither a slash nor a star
    obtain ⟨hshape, -⟩ := Bool.and_eq_true_iff.mp hescape
    have hlast : a.toText.getLast? = some '\\' := by rw [toText_of_shape_eq_literal (eq_of_beq hshape)]; rfl
    have hline : ∀ c : Option Char, openings ((some '\\').toList ++ (['\n'] ++ c.toList)) = 0 := by
      intro c
      cases c <;> simp [openings]
    rw [if_pos hescape, hlast, hline]
    simp
  · have hdirect : openings (a.toText.getLast?.toList ++ b.toText.head?.toList) =
        openingBetween a.toText.getLast?.toList b.toText.head?.toList := by
      rw [openings_append, openings_toList, openings_toList, Nat.zero_add, Nat.add_zero]
    have hends : ∀ c d : Option Char, openingBetween c.toList d.toList = if c == some '/' && d == some '*' then 1 else 0 := by
      intro c d
      cases c <;> cases d <;> rfl
    rw [if_neg hescape, List.nil_append, hdirect, hends]
    split
    · rename_i hmeet
      simp [hmeet]
    · rename_i hmeet
      simp only [hmeet, lt_irrefl]
      simp

mutual

theorem total_pos_iff (node : Node) : 0 < total (fun _ => 0) openedBetween node ↔ hasJoint node = true := by
  cases node with
  | leaf lexeme => simp [total, hasJoint]
  | block bracket content =>
    rw [total, hasJoint]
    exact listTotal_pos_iff none content
  | call name arguments =>
    rw [total, hasJoint]
    exact listTotal_pos_iff none arguments

theorem listTotal_pos_iff (before : Option Node) (nodes : List Node) :
    0 < listTotal (fun _ => 0) openedBetween before nodes ↔ listHasJoint before nodes = true := by
  cases nodes with
  | nil => simp [listTotal, listHasJoint]
  | cons node nodes =>
    have hnode := total_pos_iff node
    have hnodes := listTotal_pos_iff (some node) nodes
    have hbefore : 0 < (before.map fun neighbour => openedBetween neighbour node).getD 0 ↔ before.any (joins · node) = true := by
      cases before with
      | none => simp
      | some neighbour => exact openedBetween_pos_iff
    rw [listTotal, listHasJoint, Bool.or_eq_true, Bool.or_eq_true, ← hbefore, ← hnode, ← hnodes]
    omega

end

end Node

end Css

end UiToolkit
