import UiToolkit.Text.Letter
import UiToolkit.Text.CaseTable

/-!
# Letter case

Full case mapping of text. Lower case depends on context in one place: a capital sigma takes its final form when a letter with case stands before it and none after it, characters such as accents and apostrophes being looked through.
-/

namespace UiToolkit.Text

def CaseRun.image? (run : CaseRun) (n : Nat) : Option Nat :=
  if run.first ≤ n && n ≤ run.last && (n - run.first) % run.step == 0 then some (run.target + (n - run.first))
  else none

def isCased (c : Char) : Bool :=
  let n := c.toNat
  if n < 128 then (65 ≤ n && n ≤ 90) || (97 ≤ n && n ≤ 122) else inRanges casedRanges n

def isCaseIgnorable (c : Char) : Bool :=
  let n := c.toNat
  if n < 128 then c == '\'' || c == '.' || c == ':' || c == '^' || c == '`' else inRanges caseIgnorableRanges n

def lowerForm (c : Char) : Text :=
  let n := c.toNat
  if n < 128 then [c.toLower]
  else if n == 0x130 then ['i', '\u0307']
  else [((lowerRuns.findSome? (·.image? n)).map Char.ofNat).getD c]

def upperForm (c : Char) : Text :=
  let n := c.toNat
  if n < 128 then [c.toUpper]
  else match longUpperForms.lookup n with
    | some form => form.map Char.ofNat
    | none => [((upperRuns.findSome? (·.image? n)).map Char.ofNat).getD c]

/-- Whether the first character that is not looked through has case. -/
def startsCased (s : Text) : Bool :=
  match s.dropWhile isCaseIgnorable with
  | [] => false
  | c :: _ => isCased c

/-- Lower case of text that stands after a letter with case, or after none. -/
def lowerAfter (afterCased : Bool) : Text → Text
  | [] => []
  | c :: cs =>
    let form := if c == 'Σ' then [if afterCased && !startsCased cs then 'ς' else 'σ'] else lowerForm c
    form ++ lowerAfter (if isCaseIgnorable c then afterCased else isCased c) cs

def lower (s : Text) : Text := lowerAfter false s

def upper (s : Text) : Text := s.flatMap upperForm

/-- Lower case of the letters `A` to `Z` only. -/
def asciiLower (s : Text) : Text := s.map Char.toLower

/--
Whether `c` is the lower case ASCII letter `letter` when case is ignored. Besides the capital these are the dotless and the dotted `i`, the long `s` and the Kelvin sign.
-/
def isLetterAnyCase (letter c : Char) : Bool :=
  c.toLower == letter || (letter == 'i' && (c == 'ı' || c == 'İ')) || (letter == 's' && c == 'ſ')
    || (letter == 'k' && c == '\u212A')

/-- Whether `s` starts with `word`, given in lower case, when case is ignored. -/
def startsWithAnyCase : Text → Text → Bool
  | [], _ => true
  | _ :: _, [] => false
  | w :: ws, c :: cs => isLetterAnyCase w c && startsWithAnyCase ws cs

end UiToolkit.Text
