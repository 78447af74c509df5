import UiToolkit.Css.Rule
import UiToolkit.Proofs.Segments

/-!
# Reading lexemes in front of a stop

Braces, colons and semicolons are lexemes of their own. A lexeme that ends before such a character is the same whatever comes after the character, so a text whose lexemes all do is read on its own as it is read in a style sheet.
-/

namespace UiToolkit

namespace Css

open Text

/-- Characters that no lexeme goes on with, unless it is a string, an address, a comment or an escape. -/
def stops : Text := "\x7b\x7d:;"

variable {stop : Char} {s r t : Text}

theorem takeWhile_append_stop {p : Char → Bool} (hp : ∀ c ∈ stops, p c = false) (hstop : stop ∈ stops) (s r : Text) :
    (s ++ stop :: r).takeWhile p = s.takeWhile p :=
  takeWhile_append_of_stop (by rw [List.takeWhile_cons, hp stop hstop, if_neg Bool.false_ne_true])

theorem dropWhile_append_stop {p : Char → Bool} (hp : ∀ c ∈ stops, p c = false) (hstop : stop ∈ stops) (s r : Text) :
    (s ++ stop :: r).dropWhile p = s.dropWhile p ++ stop :: r := by
  rw [← drop_length_takeWhile, takeWhile_append_stop hp hstop,
    List.drop_append_of_le_length (List.takeWhile_prefix _).length_le, drop_length_takeWhile]

theorem takeWhile_take_append_stop {p : Char → Bool} (hp : ∀ c ∈ stops, p c = false) (hstop : stop ∈ stops) (n : Nat)
    (s r : Text) : ((s ++ stop :: r).take n).takeWhile p = (s.take n).takeWhile p := by
  rw [List.take_append]
  refine takeWhile_append_of_stop ?_
  cases n - s.length with
  | zero => rfl
  | succ k => rw [List.take_succ_cons, List.takeWhile_cons, hp stop hstop, if_neg Bool.false_ne_true]

theorem any_head?_append_stop {p : Char → Bool} (hp : ∀ c ∈ stops, p c = false) (hstop : stop ∈ stops) (s r : Text) :
    (s ++ stop :: r).head?.any p = s.head?.any p := by
  cases s with
  | nil => exact hp stop hstop
  | cons c s => rfl

/-! ### Escapes and names -/

theorem escapes_append (hstop : stop ∈ stops) (s r : Text) : escapes (s ++ stop :: r) = escapes s := by
  cases s with
  | nil =>
    have hne : stop ≠ '\n' := by
      rintro rfl
      exact absurd hstop (by decide)
    simp [escapes, hne]
  | cons c s => rfl

theorem escape_nonempty (c : Char) (cs : Text) :
    escape (c :: cs) =
      let digits := ((c :: cs).take 6).takeWhile isHexDigit
      if digits.isEmpty then (c, 1)
      else (codePoint (digits.foldl (fun n d => 16 * n + hexValue d) 0),
        digits.length + if ((c :: cs).drop digits.length).head?.any isSpace then 1 else 0) := by
  rfl

theorem escape_stop (hstop : stop ∈ stops) (r : Text) : escape (stop :: r) = (stop, 1) := by
  have hhex : ∀ c ∈ stops, isHexDigit c = false := by decide
  rw [escape_nonempty, List.take_succ_cons, List.takeWhile_cons, hhex stop hstop]
  rfl

theorem length_takeWhile_take_le (p : Char → Bool) (n : Nat) (s : Text) : ((s.take n).takeWhile p).length ≤ s.length :=
  (List.takeWhile_prefix _).length_le.trans (List.length_take_le' _ _)

theorem escape_append (hstop : stop ∈ stops) (hne : s ≠ []) (r : Text) : escape (s ++ stop :: r) = escape s := by
  obtain ⟨c, cs, rfl⟩ := List.exists_cons_of_ne_nil hne
  have hdigits := takeWhile_take_append_stop (p := isHexDigit) (by decide) hstop 6 (c :: cs) r
  have hlength := length_takeWhile_take_le isHexDigit 6 (c :: cs)
  rw [List.cons_append, escape_nonempty, escape_nonempty, ← List.cons_append, hdigits]
  dsimp only
  rw [List.drop_append_of_le_length hlength, any_head?_append_stop (p := isSpace) (by decide) hstop]

theorem escape_le (s : Text) : (escape s).2 ≤ s.length := by
  cases s with
  | nil => exact Nat.le_refl 0
  | cons c cs =>
    have hlength := length_takeWhile_take_le isHexDigit 6 (c :: cs)
    rw [escape_nonempty]
    dsimp only
    split
    · simp
    · split
      · rename_i hspace
        obtain ⟨d, hd, -⟩ := Option.any_eq_true _ _ |>.mp hspace
        have hlt := List.length_pos_iff.mpr (List.ne_nil_of_mem (List.mem_of_head? hd))
        rw [List.length_drop] at hlt
        simp only
        omega
      · exact hlength

theorem name_cons (c : Char) (cs : Text) :
    name (c :: cs) =
      if isNameChar c then (c :: (name cs).1, (name cs).2 + 1)
      else if c == '\\' && escapes cs then
        ((escape cs).1 :: (name (cs.drop (escape cs).2)).1, (name (cs.drop (escape cs).2)).2 + (escape cs).2 + 1)
      else ([], 0) := by
  rw [name]

/-- What follows the stop does not matter for a name that ends before it. -/
theorem name_append (hstop : stop ∈ stops) (h : (name (s ++ stop :: r)).2 ≤ s.length) :
    name (s ++ stop :: t) = name (s ++ stop :: r) := by
  have hnil : ∀ r, name (stop :: r) = ([], 0) := by
    intro r
    have hnot : ∀ c ∈ stops, isNameChar c = false ∧ c ≠ '\\' := by decide
    rw [name_cons, (hnot stop hstop).1, if_neg Bool.false_ne_true, beq_false_of_ne (hnot stop hstop).2]
    rfl
  induction hlength : s.length using Nat.strongRecOn generalizing s with
  | ind n ih =>
    cases s with
    | nil => rw [List.nil_append, List.nil_append, hnil, hnil]
    | cons c cs =>
      rw [List.length_cons] at hlength
      rw [List.cons_append, name_cons, escapes_append hstop] at h
      rw [List.cons_append, List.cons_append, name_cons, name_cons, escapes_append hstop, escapes_append hstop]
      by_cases hc : isNameChar c = true
      · rw [if_pos hc] at h ⊢
        rw [if_pos hc, ih cs.length (by omega) (by simpa using h) rfl]
      · rw [if_neg hc] at h ⊢
        rw [if_neg hc]
        by_cases hescape : (c == '\\' && escapes cs) = true
        · rw [if_pos hescape] at h ⊢
          rw [if_pos hescape]
          by_cases hne : cs = []
          · subst hne
            rw [List.nil_append, escape_stop hstop] at h
            simp at h
          · have hle := escape_le cs
            rw [escape_append hstop hne, List.drop_append_of_le_length hle] at h ⊢
            rw [escape_append hstop hne, List.drop_append_of_le_length hle,
              ih (cs.drop (escape cs).2).length (by rw [List.length_drop]; omega) ?_ rfl]
            rw [List.length_drop]
            simp only [List.length_cons] at h
            omega
        · rw [if_neg hescape, if_neg hescape]

/-! ### Strings -/

theorem stringRest_newline (quote : Char) (cs : Text) :
    stringRest quote ('\\' :: '\n' :: cs) =
      ((stringRest quote cs).1, (stringRest quote cs).2.1, (stringRest quote cs).2.2 + 2) := by
  rw [stringRest]

theorem stringRest_escape {quote c : Char} (hquote : quote ≠ '\\') (hc : c ≠ '\n') (cs : Text) :
    stringRest quote ('\\' :: c :: cs) =
      let e := escape (c :: cs)
      let rest := stringRest quote ((c :: cs).drop e.2)
      (e.1 :: rest.1, rest.2.1, rest.2.2 + e.2 + 1) := by
  rw [stringRest.eq_4 quote '\\' (c :: cs) (fun _ h => by cases h) fun _ _ h => hc (List.cons.inj h).1,
    beq_false_of_ne hquote.symm, if_neg Bool.false_ne_true, beq_self_eq_true, if_pos rfl]

theorem stringRest_cons {quote c : Char} (hc : c ≠ '\\') (cs : Text) :
    stringRest quote (c :: cs) =
      if c == quote then ([], .closed, 1) else if c == '\n' then ([], .bad, 0)
      else (c :: (stringRest quote cs).1, (stringRest quote cs).2.1, (stringRest quote cs).2.2 + 1) := by
  rw [stringRest.eq_4 quote c cs (fun h => absurd h hc) fun _ h => absurd h hc, beq_false_of_ne hc,
    if_neg Bool.false_ne_true]

theorem stringRest_append {quote : Char} (hquote : quote ≠ '\\' ∧ quote ∉ stops) (hstop : stop ∈ stops)
    (h : (stringRest quote (s ++ stop :: r)).2.2 ≤ s.length) :
    stringRest quote (s ++ stop :: t) = stringRest quote (s ++ stop :: r) := by
  have hplain : ∀ c ∈ stops, c ≠ '\\' ∧ c ≠ '\n' := by decide
  induction hlength : s.length using Nat.strongRecOn generalizing s with
  | ind n ih =>
    cases s with
    | nil =>
      have hne : stop ≠ quote := fun heq => hquote.2 (heq ▸ hstop)
      rw [List.nil_append, stringRest_cons (hplain stop hstop).1, beq_false_of_ne hne,
        beq_false_of_ne (hplain stop hstop).2] at h
      simp at h
    | cons c cs =>
      rw [List.length_cons] at hlength
      by_cases hc : c = '\\'
      · subst hc
        cases cs with
        | nil =>
          rw [List.cons_append, List.nil_append, stringRest_escape hquote.1 (hplain stop hstop).2,
            escape_stop hstop] at h
          simp at h
        | cons d ds =>
          by_cases hd : d = '\n'
          · subst hd
            simp only [List.cons_append, stringRest_newline, List.length_cons, Nat.add_le_add_iff_right] at h ⊢
            rw [ih ds.length (by simp only [List.length_cons] at hlength; omega) h rfl]
          · have hle := escape_le (d :: ds)
            rw [List.cons_append, List.cons_append, stringRest_escape hquote.1 hd] at h
            rw [List.cons_append, List.cons_append, List.cons_append, List.cons_append, stringRest_escape hquote.1 hd,
              stringRest_escape hquote.1 hd]
            simp only [← List.cons_append, escape_append hstop (List.cons_ne_nil d ds),
              List.drop_append_of_le_length hle] at h ⊢
            rw [ih ((d :: ds).drop (escape (d :: ds)).2).length (by rw [List.length_drop]; omega) ?_ rfl]
            rw [List.length_drop]
            simp only [List.length_cons] at h ⊢
            omega
      · rw [List.cons_append, stringRest_cons hc] at h
        rw [List.cons_append, List.cons_append, stringRest_cons hc, stringRest_cons hc]
        by_cases hclose : (c == quote) = true
        · rw [if_pos hclose, if_pos hclose]
        · rw [if_neg hclose] at h ⊢
          rw [if_neg hclose]
          by_cases hline : (c == '\n') = true
          · rw [if_pos hline, if_pos hline]
          · rw [if_neg hline] at h ⊢
            rw [if_neg hline, ih cs.length (by omega) (by simpa using h) rfl]

theorem stringLexeme_append {quote : Char} (hquote : quote ≠ '\\' ∧ quote ∉ stops) (hstop : stop ∈ stops)
    (h : (stringLexeme quote (s ++ stop :: r)).2 ≤ s.length) :
    stringLexeme quote (s ++ stop :: t) = stringLexeme quote (s ++ stop :: r) := by
  have hextent : (stringLexeme quote (s ++ stop :: r)).2 = (stringRest quote (s ++ stop :: r)).2.2 := by
    rw [stringLexeme]
    rcases stringRest quote (s ++ stop :: r) with ⟨value, ending, n⟩
    cases ending <;> rfl
  rw [stringLexeme, stringLexeme, stringRest_append hquote hstop (hextent ▸ h)]

/-! ### Addresses -/

/-- How an address ends after blanks, by the text behind them. -/
def afterBlanks (n : Nat) : Text → Text × Ending × Nat
  | [] => ([], .cut, n + 1)
  | c :: _ => if c == ')' then ([], .closed, n + 2) else ([], .bad, n + 1)

theorem urlRest_cons (c : Char) (cs : Text) :
    urlRest (c :: cs) =
      if c == ')' then ([], .closed, 1)
      else if isSpace c then afterBlanks (cs.takeWhile isSpace).length (cs.dropWhile isSpace)
      else if c == '\\' && escapes cs then
        let e := escape cs
        let rest := urlRest (cs.drop e.2)
        (e.1 :: rest.1, rest.2.1, rest.2.2 + e.2 + 1)
      else if isForbiddenInUrl c then ([], .bad, 1)
      else (c :: (urlRest cs).1, (urlRest cs).2.1, (urlRest cs).2.2 + 1) := by
  rw [urlRest]
  dsimp only
  rw [drop_length_takeWhile]
  cases hrest : cs.dropWhile isSpace with
  | nil => rfl
  | cons d ds =>
    by_cases hd : d = ')'
    · subst hd
      rfl
    · simp [afterBlanks, hd]

/-- An address that ends before the stop, blanks that spoil it coming before another character, ends there whatever follows. -/
theorem urlRest_append (hstop : stop ∈ stops) (h : (urlRest (s ++ stop :: r)).2.2 ≤ s.length)
    (hbad : (urlRest (s ++ stop :: r)).2.1 = .bad → (urlRest (s ++ stop :: r)).2.2 < s.length) :
    urlRest (s ++ stop :: t) = urlRest (s ++ stop :: r) := by
  have hplain : ∀ c ∈ stops, c ≠ ')' ∧ isSpace c = false ∧ c ≠ '\\' ∧ isForbiddenInUrl c = false := by decide
  obtain ⟨hclose, hspace, hescape, hforbidden⟩ := hplain stop hstop
  have htake : ∀ cs r, (cs ++ stop :: r).takeWhile isSpace = cs.takeWhile isSpace :=
    fun cs r => takeWhile_append_stop (by decide) hstop cs r
  have hdrop : ∀ cs r, (cs ++ stop :: r).dropWhile isSpace = cs.dropWhile isSpace ++ stop :: r :=
    fun cs r => dropWhile_append_stop (by decide) hstop cs r
  induction hlength : s.length using Nat.strongRecOn generalizing s with
  | ind n ih =>
    cases s with
    | nil =>
      rw [List.nil_append, urlRest_cons, beq_false_of_ne hclose, hspace, beq_false_of_ne hescape, hforbidden] at h
      simp at h
    | cons c cs =>
      rw [List.length_cons] at hlength
      rw [List.cons_append, urlRest_cons, escapes_append hstop] at h hbad
      rw [List.cons_append, List.cons_append, urlRest_cons, urlRest_cons, escapes_append hstop, escapes_append hstop]
      by_cases hc : (c == ')') = true
      · rw [if_pos hc, if_pos hc]
      rw [if_neg hc] at h hbad ⊢
      rw [if_neg hc]
      by_cases hblank : isSpace c = true
      · rw [if_pos hblank, htake, hdrop] at h hbad
        rw [if_pos hblank, if_pos hblank, htake, htake, hdrop, hdrop]
        have hsplit := congrArg List.length (List.takeWhile_append_dropWhile (p := isSpace) (l := cs))
        cases hrest : cs.dropWhile isSpace with
        | nil =>
          rw [hrest, List.append_nil] at hsplit
          rw [hrest, List.nil_append, afterBlanks, beq_false_of_ne hclose] at hbad
          have := hbad rfl
          simp only [Bool.false_eq_true, if_false, List.length_cons] at this
          omega
        | cons d ds => rfl
      rw [if_neg hblank] at h hbad ⊢
      rw [if_neg hblank]
      by_cases hbackslash : (c == '\\' && escapes cs) = true
      · rw [if_pos hbackslash] at h hbad ⊢
        rw [if_pos hbackslash]
        by_cases hne : cs = []
        · subst hne
          rw [List.nil_append, escape_stop hstop] at h
          simp at h
        · have hle := escape_le cs
          simp only [escape_append hstop hne, List.drop_append_of_le_length hle, List.length_cons] at h hbad ⊢
          rw [ih (cs.drop (escape cs).2).length (by rw [List.length_drop]; omega) ?_ ?_ rfl]
          · rw [List.length_drop]
            omega
          · intro hending
            have := hbad hending
            rw [List.length_drop]
            omega
      rw [if_neg hbackslash] at h hbad ⊢
      rw [if_neg hbackslash]
      by_cases hspoiled : isForbiddenInUrl c = true
      · rw [if_pos hspoiled, if_pos hspoiled]
      rw [if_neg hspoiled] at h hbad ⊢
      rw [if_neg hspoiled, ih cs.length (by omega) (by simpa using h) (by simpa using hbad) rfl]

theorem badUrlExtent_pos (c : Char) (cs : Text) : 0 < badUrlExtent (c :: cs) := by
  unfold badUrlExtent
  split
  · cases ‹_›
  · exact Nat.succ_pos _
  · split <;> exact Nat.succ_pos _

theorem badUrlExtent_append (hstop : stop ∈ stops) (h : badUrlExtent (s ++ stop :: r) ≤ s.length) :
    badUrlExtent (s ++ stop :: t) = badUrlExtent (s ++ stop :: r) := by
  have hplain : ∀ c ∈ stops, c ≠ ')' := by decide
  fun_induction badUrlExtent s with
  | case1 => exact absurd h (Nat.not_le.mpr (badUrlExtent_pos stop r))
  | case2 cs ih =>
    simp only [List.cons_append, badUrlExtent, List.length_cons, Nat.add_le_add_iff_right] at h ⊢
    rw [ih h]
  | case3 c cs hescape hclose =>
    obtain rfl : c = ')' := beq_iff_eq.mp hclose
    rfl
  | case4 c cs hescape hclose ih =>
    have hstep : ∀ r, badUrlExtent (c :: (cs ++ stop :: r)) = badUrlExtent (cs ++ stop :: r) + 1 := by
      intro r
      rw [badUrlExtent, if_neg hclose]
      rintro ds rfl heq
      cases cs with
      | nil => exact hplain stop hstop (List.cons.inj heq).1
      | cons d cs => exact hescape cs rfl (by rw [(List.cons.inj heq).1])
    rw [List.cons_append, hstep] at h
    rw [List.cons_append, List.cons_append, hstep, hstep, ih (by simpa using h)]

/-- The lexeme of an address, by how it is read. -/
def urlEnded (blanks : Nat) (body : Text) : Text × Ending × Nat → Lexeme × Nat
  | (value, .closed, n) => (.url value true, blanks + n)
  | (value, .cut, n) => (.url value false, blanks + n)
  | (_, .bad, n) => (.badUrl, blanks + n + badUrlExtent (body.drop n))

theorem urlLexeme_eq (cs : Text) :
    urlLexeme cs = urlEnded (cs.takeWhile isSpace).length (cs.dropWhile isSpace) (urlRest (cs.dropWhile isSpace)) := by
  rw [urlLexeme]
  dsimp only
  rw [drop_length_takeWhile]
  rcases urlRest (cs.dropWhile isSpace) with ⟨value, ending, n⟩
  cases ending <;> rfl

theorem urlLexeme_append (hstop : stop ∈ stops) (h : (urlLexeme (s ++ stop :: r)).2 ≤ s.length) :
    urlLexeme (s ++ stop :: t) = urlLexeme (s ++ stop :: r) := by
  have htake : ∀ r, (s ++ stop :: r).takeWhile isSpace = s.takeWhile isSpace :=
    fun r => takeWhile_append_stop (by decide) hstop s r
  have hdrop : ∀ r, (s ++ stop :: r).dropWhile isSpace = s.dropWhile isSpace ++ stop :: r :=
    fun r => dropWhile_append_stop (by decide) hstop s r
  have hsplit := congrArg List.length (List.takeWhile_append_dropWhile (p := isSpace) (l := s))
  rw [List.length_append] at hsplit
  rw [urlLexeme_eq, htake, hdrop] at h
  rw [urlLexeme_eq, urlLexeme_eq, htake, htake, hdrop, hdrop]
  generalize s.dropWhile isSpace = body at h hsplit ⊢
  cases hread : urlRest (body ++ stop :: r) with
  | mk value rest =>
    obtain ⟨ending, n⟩ := rest
    rw [hread] at h
    cases ending with
    | closed =>
      simp only [urlEnded] at h
      rw [urlRest_append hstop (by rw [hread]; simp only; omega) (by rw [hread]; nofun), hread]
      rfl
    | cut =>
      simp only [urlEnded] at h
      rw [urlRest_append hstop (by rw [hread]; simp only; omega) (by rw [hread]; nofun), hread]
      rfl
    | bad =>
      simp only [urlEnded] at h
      have hn : n < body.length := by
        refine Nat.lt_of_le_of_ne (by omega) ?_
        rintro rfl
        have := badUrlExtent_pos stop r
        rw [List.drop_left] at h
        omega
      rw [List.drop_append_of_le_length hn.le] at h
      rw [urlRest_append hstop (by rw [hread]; exact hn.le) (by rw [hread]; exact fun _ => hn), hread]
      simp only [urlEnded, List.drop_append_of_le_length hn.le]
      rw [badUrlExtent_append (r := r) (t := t) hstop (by rw [List.length_drop]; omega)]

/-! ### Numbers and ranges -/

theorem digitExtent_append (hstop : stop ∈ stops) (s r : Text) : digitExtent (s ++ stop :: r) = digitExtent s := by
  rw [digitExtent, digitExtent, takeWhile_append_stop (by decide) hstop]

theorem digitExtent_le (s : Text) : digitExtent s ≤ s.length := (List.takeWhile_prefix _).length_le

theorem exponentExtent_append (hstop : stop ∈ stops) (s r : Text) :
    exponentExtent (s ++ stop :: r) = exponentExtent s := by
  cases s with
  | nil =>
    have hplain : ∀ c ∈ stops, (c == 'e' || c == 'E') = false := by decide
    rw [List.nil_append, exponentExtent.eq_2, hplain stop hstop]
    rfl
  | cons c cs =>
    rw [List.cons_append, exponentExtent, exponentExtent, any_head?_append_stop (by decide) hstop]
    dsimp only
    cases hsign : cs.head?.any fun c => c == '+' || c == '-' with
    | false => rw [if_neg Bool.false_ne_true, List.drop_zero, List.drop_zero, digitExtent_append hstop]
    | true =>
      cases cs with
      | nil => cases hsign
      | cons d ds => rw [if_pos rfl, List.cons_append, List.drop_succ_cons, List.drop_succ_cons, List.drop_zero,
          List.drop_zero, digitExtent_append hstop]

/-- The length of the digits after a point. -/
def fractionExtent : Text → Nat
  | '.' :: rest => digitExtent rest
  | _ => 0

theorem fractionExtent_append (hstop : stop ∈ stops) (s r : Text) :
    fractionExtent (s ++ stop :: r) = fractionExtent s := by
  have hplain : ∀ c ∈ stops, c ≠ '.' := by decide
  cases s with
  | nil => rw [List.nil_append, fractionExtent.eq_2 _ fun rest h => hplain stop hstop (List.cons.inj h).1]; rfl
  | cons c cs =>
    by_cases hc : c = '.'
    · subst hc
      exact digitExtent_append hstop cs r
    · rw [List.cons_append, fractionExtent.eq_2 _ fun rest h => hc (List.cons.inj h).1,
        fractionExtent.eq_2 _ fun rest h => hc (List.cons.inj h).1]

theorem fractionExtent_lt {s : Text} (h : fractionExtent s ≠ 0) : fractionExtent s < s.length := by
  unfold fractionExtent at h ⊢
  split at h
  · rename_i rest
    exact Nat.lt_succ_of_le (digitExtent_le rest)
  · exact absurd rfl h

def signExtent (s : Text) : Nat := if s.head?.any fun c => c == '+' || c == '-' then 1 else 0

def mantissaExtent (s : Text) : Nat :=
  let fraction := fractionExtent (s.drop (digitExtent s))
  if fraction = 0 then digitExtent s else digitExtent s + 1 + fraction

theorem numberExtent_eq (s : Text) :
    numberExtent s =
      if mantissaExtent (s.drop (signExtent s)) = 0 then 0
      else signExtent s + mantissaExtent (s.drop (signExtent s)) +
        exponentExtent (s.drop (signExtent s + mantissaExtent (s.drop (signExtent s)))) := by
  have hfraction : fractionExtent ((s.drop (signExtent s)).drop (digitExtent (s.drop (signExtent s)))) =
      fractionExtent (s.drop (signExtent s + digitExtent (s.drop (signExtent s)))) := by
    rw [List.drop_drop]
  rw [mantissaExtent, hfraction]
  rfl

theorem signExtent_le (s : Text) : signExtent s ≤ s.length := by
  cases s with
  | nil => exact Nat.le_refl 0
  | cons c cs =>
    rw [signExtent]
    split <;> simp

theorem mantissaExtent_le (s : Text) : mantissaExtent s ≤ s.length := by
  have hdigits := digitExtent_le s
  rw [mantissaExtent]
  split
  · exact hdigits
  · rename_i hfraction
    have := fractionExtent_lt hfraction
    rw [List.length_drop] at this
    omega

theorem mantissaExtent_append (hstop : stop ∈ stops) (s r : Text) :
    mantissaExtent (s ++ stop :: r) = mantissaExtent s := by
  rw [mantissaExtent, mantissaExtent, digitExtent_append hstop, List.drop_append_of_le_length (digitExtent_le s), fractionExtent_append hstop]

theorem numberExtent_append (hstop : stop ∈ stops) (s r : Text) : numberExtent (s ++ stop :: r) = numberExtent s := by
  have hsign : signExtent (s ++ stop :: r) = signExtent s := by
    rw [signExtent, signExtent, any_head?_append_stop (by decide) hstop]
  have hle := signExtent_le s
  have hmantissa := mantissaExtent_le (s.drop (signExtent s))
  rw [List.length_drop] at hmantissa
  rw [numberExtent_eq, numberExtent_eq, hsign, List.drop_append_of_le_length hle, mantissaExtent_append hstop,
    List.drop_append_of_le_length (by omega), exponentExtent_append hstop]

theorem unicodeRange_append (hstop : stop ∈ stops) (s r : Text) : unicodeRange (s ++ stop :: r) = unicodeRange s := by
  have hplain : ∀ c ∈ stops, c ≠ '-' := by decide
  have hmark : ∀ c ∈ stops, (c == '?') = false := by decide
  have hdigits := takeWhile_take_append_stop (p := isHexDigit) (by decide) hstop 6 s r
  have hlength := (List.takeWhile_prefix isHexDigit (l := s.take 6)).length_le
  have hmarks : (((s ++ stop :: r).take 6).drop ((s.take 6).takeWhile isHexDigit).length).takeWhile (· == '?') =
      ((s.take 6).drop ((s.take 6).takeWhile isHexDigit).length).takeWhile (· == '?') := by
    rw [List.take_append, List.drop_append_of_le_length hlength]
    refine takeWhile_append_of_stop ?_
    cases 6 - s.length with
    | zero => rfl
    | succ k => rw [List.take_succ_cons, List.takeWhile_cons, hmark stop hstop, if_neg Bool.false_ne_true]
  have htotal : ((s.take 6).takeWhile isHexDigit).length +
      (((s.take 6).drop ((s.take 6).takeWhile isHexDigit).length).takeWhile (· == '?')).length ≤ s.length := by
    have hle := (List.takeWhile_prefix (· == '?') (l := (s.take 6).drop ((s.take 6).takeWhile isHexDigit).length)).length_le
    have hsix := List.length_take_le' 6 s
    rw [List.length_drop] at hle
    omega
  unfold unicodeRange
  dsimp only
  rw [hdigits, hmarks, List.drop_append_of_le_length htotal]
  generalize s.drop _ = rest
  split
  · rfl
  · cases rest with
    | nil => simp [hplain stop hstop]
    | cons c cs =>
      by_cases hc : c = '-'
      · subst hc
        simp only [List.cons_append, takeWhile_take_append_stop (p := isHexDigit) (by decide) hstop 6 cs r]
      · simp [hc]

theorem commentExtent_append (hstop : stop ∈ stops) (h : commentExtent (s ++ stop :: r) ≤ s.length) :
    commentExtent (s ++ stop :: t) = commentExtent (s ++ stop :: r) := by
  have hplain : ∀ c ∈ stops, c ≠ '/' ∧ c ≠ '*' := by decide
  have hpos : 0 < commentExtent (stop :: r) := by
    unfold commentExtent
    split
    · cases ‹_›
    · exact Nat.succ_pos _
    · exact Nat.succ_pos _
  fun_induction commentExtent s with
  | case1 => exact absurd h (Nat.not_le.mpr hpos)
  | case2 cs => rfl
  | case3 c cs hclose ih =>
    have hstep : ∀ r, commentExtent (c :: (cs ++ stop :: r)) = commentExtent (cs ++ stop :: r) + 1 := by
      intro r
      rw [commentExtent]
      rintro ds rfl heq
      cases cs with
      | nil => exact (hplain stop hstop).1 (List.cons.inj heq).1
      | cons d cs => exact hclose cs rfl (by rw [(List.cons.inj heq).1])
    rw [List.cons_append, hstep] at h
    rw [List.cons_append, List.cons_append, hstep, hstep, ih (by simpa using h)]

/-! ### The next lexeme -/

theorem startsIdent_append (hstop : stop ∈ stops) (s r : Text) : startsIdent (s ++ stop :: r) = startsIdent s := by
  have hplain : ∀ c ∈ stops, isNameStart c = false ∧ c ≠ '-' ∧ c ≠ '\\' := by decide
  obtain ⟨hname, hhyphen, hbackslash⟩ := hplain stop hstop
  have hstep : ∀ c cs, c ≠ '-' → startsIdent (c :: cs) = (isNameStart c || (c == '\\' && escapes cs)) :=
    fun c cs hc => startsIdent.eq_4 c cs hc
  cases s with
  | nil =>
    rw [List.nil_append, hstep stop r hhyphen, hname, beq_false_of_ne hbackslash]
    rfl
  | cons c cs =>
    by_cases hc : c = '-'
    · subst hc
      cases cs with
      | nil => simp [startsIdent, hname, hhyphen, hbackslash]
      | cons d ds => simp only [List.cons_append, startsIdent, escapes_append hstop]
    · rw [List.cons_append, hstep c _ hc, hstep c _ hc, escapes_append hstop]

theorem startsUnicodeRange_eq (s : Text) :
    startsUnicodeRange s = ((s.head?.any fun u => u == 'U' || u == 'u') && s.tail.head?.any (· == '+') &&
      s.tail.tail.head?.any fun d => isHexDigit d || d == '?') := by
  unfold startsUnicodeRange
  split
  · simp
  · rename_i hnot
    rcases s with _ | ⟨u, _ | ⟨p, _ | ⟨d, ds⟩⟩⟩
    · rfl
    · simp
    · simp
    · have hp : p ≠ '+' := by
        rintro rfl
        exact hnot u d ds rfl
      simp [hp]

theorem startsUnicodeRange_append (hstop : stop ∈ stops) (s r : Text) :
    startsUnicodeRange (s ++ stop :: r) = startsUnicodeRange s := by
  rw [startsUnicodeRange_eq, startsUnicodeRange_eq, any_head?_append_stop (by decide) hstop]
  rcases s with _ | ⟨u, s⟩
  · rfl
  · rw [List.cons_append, List.tail_cons, List.tail_cons, any_head?_append_stop (by decide) hstop]
    rcases s with _ | ⟨p, s⟩
    · simp
    · rw [List.cons_append, List.tail_cons, List.tail_cons, any_head?_append_stop (by decide) hstop]

theorem isPrefixOf_append_stop (word : Text) (hword : ∀ c ∈ stops, c ∉ word) (hstop : stop ∈ stops) (s r : Text) :
    word.isPrefixOf (s ++ stop :: r) = word.isPrefixOf s := by
  induction word generalizing s with
  | nil => rfl
  | cons w word ih =>
    have hne : stop ≠ w := fun h => hword stop hstop (h ▸ List.mem_cons_self)
    cases s with
    | nil => simp [List.isPrefixOf, hne.symm]
    | cons c cs =>
      simp only [List.cons_append, List.isPrefixOf]
      rw [ih fun d hd hmem => hword d hd (List.mem_cons_of_mem w hmem)]

theorem literalExtent_eq (s : Text) :
    literalExtent s =
      if "<!--".toList.isPrefixOf s then 4
      else if "||".toList.isPrefixOf s then 2
      else if s.tail.head?.any (· == '=') && s.head?.any fun c => "~|^$*".toList.contains c then 2
      else 1 := by
  unfold literalExtent
  split
  · simp
  · simp
  · simp [or_assoc]
  · rename_i hcomment hbars hequals
    have hfirst : "<!--".toList.isPrefixOf s = false := by
      refine Bool.eq_false_iff.mpr fun h => ?_
      obtain ⟨rest, rfl⟩ := List.isPrefixOf_iff_prefix.mp h
      exact hcomment rest rfl
    have hsecond : "||".toList.isPrefixOf s = false := by
      refine Bool.eq_false_iff.mpr fun h => ?_
      obtain ⟨rest, rfl⟩ := List.isPrefixOf_iff_prefix.mp h
      exact hbars rest rfl
    have hthird : s.tail.head?.any (· == '=') = false := by
      rcases s with _ | ⟨c, _ | ⟨d, s⟩⟩
      · rfl
      · rfl
      · refine beq_false_of_ne ?_
        rintro rfl
        exact hequals c s rfl
    rw [hfirst, hsecond, hthird]
    rfl

theorem literalExtent_append (hstop : stop ∈ stops) (hne : s ≠ []) (r : Text) :
    literalExtent (s ++ stop :: r) = literalExtent s := by
  obtain ⟨c, cs, rfl⟩ := List.exists_cons_of_ne_nil hne
  rw [literalExtent_eq, literalExtent_eq, isPrefixOf_append_stop _ (by decide) hstop, isPrefixOf_append_stop _ (by decide) hstop,
    List.cons_append, List.tail_cons, List.tail_cons, any_head?_append_stop (by decide) hstop, List.head?_cons, List.head?_cons]

theorem identLexeme_eq (s : Text) :
    identLexeme s = match s.drop (name s).2 with
      | '(' :: rest =>
        if (name s).1.map Char.toLower == "url".toList &&
            !(rest.dropWhile isSpace).head?.any fun c => c == '"' || c == '\'' then
          ((urlLexeme rest).1, (name s).2 + 1 + (urlLexeme rest).2)
        else (.call (name s).1, (name s).2 + 1)
      | _ => (.ident (name s).1, (name s).2) := by
  rfl

theorem identLexeme_append (hstop : stop ∈ stops) (h : (identLexeme (s ++ stop :: r)).2 ≤ s.length) :
    identLexeme (s ++ stop :: t) = identLexeme (s ++ stop :: r) := by
  have hparen : ∀ c ∈ stops, c ≠ '(' := by decide
  have hname : (name (s ++ stop :: r)).2 ≤ s.length := by
    refine Nat.le_trans ?_ h
    rw [identLexeme_eq]
    split
    · split
      · exact Nat.le_trans (Nat.le_succ _) (Nat.le_add_right _ _)
      · exact Nat.le_succ _
    · exact Nat.le_refl _
  rw [identLexeme_eq, List.drop_append_of_le_length hname] at h
  rw [identLexeme_eq, identLexeme_eq, name_append hstop hname, List.drop_append_of_le_length hname,
    List.drop_append_of_le_length hname]
  have hlength := congrArg List.length (List.take_append_drop (name (s ++ stop :: r)).2 s)
  rw [List.length_append, List.length_take, Nat.min_eq_left hname] at hlength
  generalize name (s ++ stop :: r) = read at h hname hlength ⊢
  cases hrest : s.drop read.2 with
  | nil => simp [hparen stop hstop]
  | cons c rest =>
    by_cases hc : c = '('
    · subst hc
      rw [hrest] at h hlength
      simp only [List.cons_append, dropWhile_append_stop (p := isSpace) (by decide) hstop,
        any_head?_append_stop (p := fun c => c == '"' || c == '\'') (by decide) hstop] at h ⊢
      split at h
      · rename_i hurl
        rw [if_pos hurl, if_pos hurl, urlLexeme_append (r := r) (t := t) hstop (by
          simp only [List.length_cons] at h hlength
          omega)]
      · rename_i hurl
        rw [if_neg hurl, if_neg hurl]
    · simp [hc]

theorem numberLexeme_append (hstop : stop ∈ stops) {n : Nat} (hn : n ≤ s.length)
    (h : (numberLexeme (s ++ stop :: r) n).2 ≤ s.length) :
    numberLexeme (s ++ stop :: t) n = numberLexeme (s ++ stop :: r) n := by
  have hnot : ∀ c ∈ stops, c ≠ '%' := by decide
  have hpercent : ∀ r, ((s.drop n ++ stop :: r).head? == some '%') = ((s.drop n).head? == some '%') := by
    intro r
    cases s.drop n with
    | nil => simpa using hnot stop hstop
    | cons c cs => rfl
  unfold numberLexeme at h ⊢
  dsimp only at h ⊢
  rw [List.drop_append_of_le_length hn, startsIdent_append hstop, hpercent, List.take_append_of_le_length hn] at h
  rw [List.drop_append_of_le_length hn, List.drop_append_of_le_length hn, startsIdent_append hstop,
    startsIdent_append hstop, hpercent, hpercent, List.take_append_of_le_length hn, List.take_append_of_le_length hn]
  split at h
  · rename_i hident
    rw [if_pos hident, if_pos hident, name_append (r := r) (t := t) hstop (by
      rw [List.length_drop]
      simp only at h
      omega)]
  · rename_i hident
    rw [if_neg hident, if_neg hident]

theorem numberExtent_le (s : Text) : numberExtent s ≤ s.length := by
  have hexponent : ∀ s, exponentExtent s ≤ s.length := by
    intro s
    cases s with
    | nil => exact Nat.le_refl 0
    | cons c cs =>
      have hdigits := digitExtent_le (cs.drop (signExtent cs))
      have hsign := signExtent_le cs
      rw [List.length_drop] at hdigits
      rw [exponentExtent.eq_2]
      split
      · change (if digitExtent (cs.drop (signExtent cs)) = 0 then 0
          else 1 + signExtent cs + digitExtent (cs.drop (signExtent cs))) ≤ cs.length + 1
        split <;> omega
      · exact Nat.zero_le _
  have hsign := signExtent_le s
  have hmantissa := mantissaExtent_le (s.drop (signExtent s))
  have hrest := hexponent (s.drop (signExtent s + mantissaExtent (s.drop (signExtent s))))
  rw [List.length_drop] at hmantissa hrest
  rw [numberExtent_eq]
  split <;> omega

/-- A lexeme that ends before the stop is the same whatever follows the stop. -/
theorem next_append {c : Char} {cs : Text} (hstop : stop ∈ stops) (h : (next c (cs ++ stop :: r)).2 ≤ cs.length) :
    next c (cs ++ stop :: t) = next c (cs ++ stop :: r) := by
  have hspace := takeWhile_append_stop (p := isSpace) (by decide) hstop (c :: cs)
  have hrange := startsUnicodeRange_append hstop (c :: cs)
  have harrow := isPrefixOf_append_stop "-->".toList (by decide) hstop (c :: cs)
  have hident := startsIdent_append hstop (c :: cs)
  have hnumber := numberExtent_append hstop (c :: cs)
  have hkeyword := startsIdent_append hstop cs
  have hcomment := isPrefixOf_append_stop "/*".toList (by decide) hstop (c :: cs)
  have hliteral := literalExtent_append hstop (List.cons_ne_nil c cs)
  unfold next at h ⊢
  dsimp only at h ⊢
  have hhash : ∀ r, ((cs ++ stop :: r).head?.any isNameChar ||
      ((cs ++ stop :: r).head? == some '\\' && escapes ((cs ++ stop :: r).drop 1))) =
        (cs.head?.any isNameChar || (cs.head? == some '\\' && escapes (cs.drop 1))) := by
    intro r
    have hplain : ∀ c ∈ stops, isNameChar c = false ∧ c ≠ '\\' := by decide
    cases cs with
    | nil => simp [hplain stop hstop]
    | cons d ds => simp only [List.cons_append, List.head?_cons, List.drop_succ_cons, List.drop_zero, escapes_append hstop]
  simp only [← List.cons_append, hspace, hrange, harrow, hident, hnumber, hkeyword, hcomment, hliteral, hhash] at h ⊢
  by_cases hc : isSpace c = true
  · rw [if_pos hc, if_pos hc]
  rw [if_neg hc] at h
  rw [if_neg hc, if_neg hc]
  by_cases hc : startsUnicodeRange (c :: cs) = true
  · rw [if_pos hc, if_pos hc]
    have hcs : 1 ≤ cs.length := by
      cases cs with
      | nil => cases hc
      | cons d ds => exact Nat.succ_pos _
    rw [List.drop_append_of_le_length hcs, List.drop_append_of_le_length hcs, unicodeRange_append hstop,
      unicodeRange_append hstop]
  rw [if_neg hc] at h
  rw [if_neg hc, if_neg hc]
  by_cases hc : "-->".toList.isPrefixOf (c :: cs) = true
  · rw [if_pos hc, if_pos hc]
  rw [if_neg hc] at h
  rw [if_neg hc, if_neg hc]
  by_cases hc : startsIdent (c :: cs) = true
  · rw [if_pos hc] at h
    rw [if_pos hc, if_pos hc, identLexeme_append (r := r) (t := t) hstop (by rw [List.length_cons]; omega)]
  rw [if_neg hc] at h
  rw [if_neg hc, if_neg hc]
  by_cases hc : numberExtent (c :: cs) ≠ 0
  · rw [if_pos hc] at h
    rw [if_pos hc, if_pos hc, numberLexeme_append (r := r) (t := t) hstop (numberExtent_le _) (by
      rw [List.length_cons]
      omega)]
  rw [if_neg hc] at h
  rw [if_neg hc, if_neg hc]
  by_cases hc : (c == '@' && startsIdent cs) = true
  · rw [if_pos hc] at h
    rw [if_pos hc, if_pos hc, name_append (r := r) (t := t) hstop (by simpa using h)]
  rw [if_neg hc] at h
  rw [if_neg hc, if_neg hc]
  by_cases hc : (c == '#' && (cs.head?.any isNameChar || (cs.head? == some '\\' && escapes (cs.drop 1)))) = true
  · rw [if_pos hc] at h
    rw [if_pos hc, if_pos hc, name_append (r := r) (t := t) hstop (by simpa using h)]
  rw [if_neg hc] at h
  rw [if_neg hc, if_neg hc]
  by_cases hc : isOpener c = true
  · rw [if_pos hc, if_pos hc]
  rw [if_neg hc] at h
  rw [if_neg hc, if_neg hc]
  by_cases hc : isCloser c = true
  · rw [if_pos hc, if_pos hc]
  rw [if_neg hc] at h
  rw [if_neg hc, if_neg hc]
  by_cases hc : (c == '"' || c == '\'') = true
  · have hquote : c ≠ '\\' ∧ c ∉ stops := by
      rw [Bool.or_eq_true, beq_iff_eq, beq_iff_eq] at hc
      rcases hc with rfl | rfl <;> decide
    rw [if_pos hc] at h
    rw [if_pos hc, if_pos hc, stringLexeme_append (r := r) (t := t) hquote hstop (by simpa using h)]
  rw [if_neg hc] at h
  rw [if_neg hc, if_neg hc]
  by_cases hc : "/*".toList.isPrefixOf (c :: cs) = true
  · rw [if_pos hc] at h
    rw [if_pos hc, if_pos hc]
    cases cs with
    | nil => simp [List.isPrefixOf] at hc
    | cons d ds =>
      simp only [List.cons_append, List.drop_succ_cons, List.drop_zero, List.length_cons,
        Nat.add_le_add_iff_right] at h ⊢
      rw [commentExtent_append hstop h]
  rw [if_neg hc] at h
  rw [if_neg hc, if_neg hc]
  have hlength : literalExtent (c :: cs) ≤ (c :: cs).length := by
    rw [List.length_cons]
    simp only at h
    omega
  rw [List.take_append_of_le_length hlength, List.take_append_of_le_length hlength]

/-! ### Texts in front of a stop -/

/-- The lexemes of a text in front of a stop, if all of them end before it. -/
def lexemesBefore? (stop : Char) : Text → Option (List Lexeme)
  | [] => some []
  | c :: cs =>
    if (next c (cs ++ [stop])).2 ≤ cs.length then
      (lexemesBefore? stop (cs.drop (next c (cs ++ [stop])).2)).map ((next c (cs ++ [stop])).1.toList ++ ·)
    else none
termination_by s => s.length
decreasing_by simp +arith

theorem scan_nil : Lexeme.scan [] = [] := by
  rw [Lexeme.scan]

theorem scan_cons (c : Char) (cs : Text) :
    Lexeme.scan (c :: cs) = (next c cs).1.toList ++ Lexeme.scan (cs.drop (next c cs).2) := by
  rw [Lexeme.scan]

/-- A text whose lexemes end before a stop is read as it is on its own. -/
theorem scan_append (hstop : stop ∈ stops) {lexemes : List Lexeme} (h : lexemesBefore? stop s = some lexemes) (r : Text) :
    Lexeme.scan (s ++ stop :: r) = lexemes ++ Lexeme.scan (stop :: r) := by
  induction hlength : s.length using Nat.strongRecOn generalizing s lexemes with
  | ind n ih =>
    cases s with
    | nil =>
      rw [lexemesBefore?] at h
      cases h
      rfl
    | cons c cs =>
      rw [lexemesBefore?] at h
      split at h
      · rename_i hend
        obtain ⟨rest, hrest, rfl⟩ := Option.map_eq_some_iff.mp h
        rw [List.cons_append, scan_cons, next_append (r := []) (t := r) hstop hend, List.drop_append_of_le_length hend,
          ih _ (by rw [List.length_drop, ← hlength, List.length_cons]; omega) hrest rfl, List.append_assoc]
      · cases h

/-- The symbols that make up a block, each a lexeme of its own. -/
def blockSymbols : Text := "\x7b\x7d:;"

theorem not_starts_of_symbol {c : Char} (hc : c ∈ blockSymbols ++ "/<".toList) (cs : Text) :
    isSpace c = false ∧ startsUnicodeRange (c :: cs) = false ∧ startsIdent (c :: cs) = false ∧ numberExtent (c :: cs) = 0 := by
  have hplain : ∀ c ∈ blockSymbols ++ "/<".toList, isSpace c = false ∧ (c == 'U' || c == 'u') = false ∧ c ≠ '-' ∧
      isNameStart c = false ∧ c ≠ '\\' ∧ c.isDigit = false ∧ (c == '+' || c == '-') = false ∧ c ≠ '.' := by
    decide
  obtain ⟨hspace, hunicode, hhyphen, hname, hbackslash, hdigit, hsign, hpoint⟩ := hplain c hc
  have hrange : startsUnicodeRange (c :: cs) = false := by
    rw [startsUnicodeRange_eq, List.head?_cons, Option.any_some, hunicode]
    rfl
  have hident : startsIdent (c :: cs) = false := by
    rw [startsIdent.eq_4 c cs hhyphen, hname, beq_false_of_ne hbackslash]
    rfl
  have hmantissa : mantissaExtent (c :: cs) = 0 := by
    have hdigits : digitExtent (c :: cs) = 0 := by
      rw [digitExtent, List.takeWhile_cons, hdigit]
      rfl
    rw [mantissaExtent, hdigits, List.drop_zero, fractionExtent.eq_2 _ fun rest h => hpoint (List.cons.inj h).1]
    rfl
  have hnumber : numberExtent (c :: cs) = 0 := by
    rw [numberExtent_eq, signExtent, List.head?_cons, Option.any_some, hsign, if_neg Bool.false_ne_true, List.drop_zero,
      hmantissa, if_pos rfl]
  exact ⟨hspace, hrange, hident, hnumber⟩

/-- What holds of every kind of lexeme that may begin with `c`, and of a comment, holds of what is read. -/
theorem next_cases {motive : Option Lexeme × Nat → Prop} (c : Char) (cs : Text)
    (space : isSpace c = true →
      motive (some (.space ((c :: cs).takeWhile isSpace)), ((c :: cs).takeWhile isSpace).length - 1))
    (range : motive (some (unicodeRange (cs.drop 1)).1, (unicodeRange (cs.drop 1)).2 + 2 - 1))
    (arrow : "-->".toList.isPrefixOf (c :: cs) = true → motive (some (.literal "-->"), 2))
    (ident : startsIdent (c :: cs) = true → motive (some (identLexeme (c :: cs)).1, (identLexeme (c :: cs)).2 - 1))
    (number : numberExtent (c :: cs) ≠ 0 → motive (some (numberLexeme (c :: cs) (numberExtent (c :: cs))).1,
      (numberLexeme (c :: cs) (numberExtent (c :: cs))).2 - 1))
    (keyword : motive (some (.atKeyword (name cs).1), (name cs).2))
    (hash : motive (some (.hash (name cs).1 (startsIdent cs)), (name cs).2))
    (opener : motive (some (.opener c), 0))
    (closer : motive (some (.closer c), 0))
    (string : motive (some (stringLexeme c cs).1, (stringLexeme c cs).2))
    (comment : "/*".toList.isPrefixOf (c :: cs) = true → motive (none, commentExtent (cs.drop 1) + 1))
    (literal : motive (some (.literal ((c :: cs).take (literalExtent (c :: cs)))), literalExtent (c :: cs) - 1)) :
    motive (next c cs) := by
  unfold next
  dsimp only
  refine iteInduction space fun _ => ?_
  refine iteInduction (fun _ => range) fun _ => ?_
  refine iteInduction arrow fun _ => ?_
  refine iteInduction ident fun _ => ?_
  refine iteInduction number fun _ => ?_
  refine iteInduction (fun _ => keyword) fun _ => ?_
  refine iteInduction (fun _ => hash) fun _ => ?_
  refine iteInduction (fun _ => opener) fun _ => ?_
  refine iteInduction (fun _ => closer) fun _ => ?_
  refine iteInduction (fun _ => string) fun _ => ?_
  exact iteInduction comment fun _ => literal

theorem next_blockSymbol {c : Char} (hc : c ∈ blockSymbols) (cs : Text) :
    next c cs = if isOpener c then (some (.opener c), 0) else if isCloser c then (some (.closer c), 0)
      else (some (.literal [c]), 0) := by
  have hplain : ∀ c ∈ blockSymbols, c ≠ '-' ∧ c ≠ '@' ∧ c ≠ '#' ∧ (c == '"' || c == '\'') = false ∧ c ≠ '/' ∧ c ≠ '<' ∧
      c ≠ '|' ∧ "~|^$*".toList.contains c = false := by
    decide
  obtain ⟨hhyphen, hat, hhash, hquote, hslash, hless, hbar, hmany⟩ := hplain c hc
  obtain ⟨hspace, hrange, hident, hnumber⟩ := not_starts_of_symbol (List.mem_append_left _ hc) cs
  have hliteral : literalExtent (c :: cs) = 1 := by
    rw [literalExtent_eq, List.head?_cons, Option.any_some, hmany, Bool.and_false]
    simp [List.isPrefixOf, hless.symm, hbar.symm]
  unfold next
  simp [hspace, hrange, hident, hnumber, hat, hhash, hquote, hliteral, List.isPrefixOf, hhyphen.symm, hslash.symm]

theorem next_comment (cs : Text) : next '/' ('*' :: cs) = (none, commentExtent cs + 1) := by
  obtain ⟨hspace, hrange, hident, hnumber⟩ := not_starts_of_symbol (c := '/') (by decide) ('*' :: cs)
  unfold next
  simp [hspace, hrange, hident, hnumber, isOpener, isCloser, List.isPrefixOf]

/-- The marks that once hid a style sheet from readers of plain documents. -/
theorem next_commentOpen (cs : Text) : next '<' ("!--".toList ++ cs) = (some (.literal "<!--"), 3) := by
  obtain ⟨hspace, hrange, hident, hnumber⟩ := not_starts_of_symbol (c := '<') (by decide) ("!--".toList ++ cs)
  have hliteral : literalExtent ('<' :: ("!--".toList ++ cs)) = 4 := rfl
  unfold next
  simp only [hspace, hrange, hident, hnumber, hliteral]
  rfl

theorem next_commentClose (cs : Text) : next '-' ("->".toList ++ cs) = (some (.literal "-->"), 2) := by
  have hrange : startsUnicodeRange ('-' :: ("->".toList ++ cs)) = false := by
    rw [startsUnicodeRange_eq]
    rfl
  unfold next
  simp only [hrange]
  rfl

theorem scan_blockSymbol {c : Char} (hc : c ∈ blockSymbols) (cs : Text) :
    Lexeme.scan (c :: cs) = (if isOpener c then .opener c else if isCloser c then .closer c else .literal [c]) ::
      Lexeme.scan cs := by
  rw [scan_cons, next_blockSymbol hc]
  split
  · rfl
  · split <;> rfl

theorem scan_spaces {c : Char} {cs : Text} (hspaces : ∀ d ∈ c :: cs, isSpace d = true)
    (hs : ∀ d ∈ s.head?, isSpace d = false) : Lexeme.scan (c :: cs ++ s) = .space (c :: cs) :: Lexeme.scan s := by
  have htake : (c :: (cs ++ s)).takeWhile isSpace = c :: cs := by
    rw [← List.cons_append, List.takeWhile_append_of_pos hspaces]
    cases s with
    | nil => rw [List.takeWhile_nil, List.append_nil]
    | cons d ds => rw [List.takeWhile_cons, hs d rfl, if_neg Bool.false_ne_true, List.append_nil]
  have hnext : next c (cs ++ s) = (some (.space (c :: cs)), cs.length) := by
    unfold next
    simp only
    rw [if_pos (hspaces c List.mem_cons_self), htake]
    rfl
  rw [List.cons_append, scan_cons, hnext, List.drop_left]
  rfl

end Css

end UiToolkit
