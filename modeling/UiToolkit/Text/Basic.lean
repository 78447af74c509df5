/-!
# Text

Text is a list of characters, so every operation on it is a recursion that a proof can follow. A string literal stands for its list of characters wherever text is expected.
-/

namespace UiToolkit

abbrev Text := List Char

instance : Coe String Text := ⟨String.toList⟩

namespace Text

/-- What is asked of every character of a text is decided by going through the text. -/
instance (priority := high) {p : Char → Prop} [DecidablePred p] (s : Text) : Decidable (∀ c ∈ s, p c) :=
  List.decidableBAll p s

/-- The pieces of `s` between the characters that satisfy `p`, empty pieces included. -/
def cut (p : Char → Bool) : Text → List Text
  | [] => [[]]
  | c :: cs =>
    if p c then [] :: cut p cs
    else match cut p cs with
      | [] => [[c]]
      | piece :: pieces => (c :: piece) :: pieces

def dropEndWhile (p : Char → Bool) (s : Text) : Text := (s.reverse.dropWhile p).reverse

/-- `s` without the characters at either end that satisfy `p`. -/
def trimWhile (p : Char → Bool) (s : Text) : Text := dropEndWhile p (s.dropWhile p)

def occursIn (needle : Text) : Text → Bool
  | [] => needle.isEmpty
  | c :: cs => needle.isPrefixOf (c :: cs) || occursIn needle cs

/-- What follows the first occurrence of `needle`. -/
def after? (needle : Text) : Text → Option Text
  | [] => if needle.isEmpty then some [] else none
  | c :: cs => if needle.isPrefixOf (c :: cs) then some ((c :: cs).drop needle.length) else after? needle cs

/-- The text before and after the first occurrence of a needle. -/
def splitOnce? (needle : Text) : Text → Option (Text × Text)
  | [] => none
  | c :: cs =>
    if needle.isPrefixOf (c :: cs) then some ([], (c :: cs).drop needle.length)
    else (splitOnce? needle cs).map fun (before, after) => (c :: before, after)

/-- Every occurrence of the nonempty text `old`, taken from left to right, gives way to `new`. -/
def replaceAll (old new : Text) : Text → Text
  | [] => []
  | c :: cs =>
    if old.isPrefixOf (c :: cs) then new ++ replaceAll old new (cs.drop (old.length - 1))
    else c :: replaceAll old new cs
termination_by s => s.length
decreasing_by all_goals simp +arith

def joinWith (separator : Text) (parts : List Text) : Text := separator.intercalate parts

/-- Text in code point order. -/
def before : Text → Text → Bool
  | _, [] => false
  | [], _ :: _ => true
  | a :: as, b :: bs => a < b || (a == b && before as bs)

/-- Puts `s` into a list in code point order, unless it is there already. -/
def insertSorted (s : Text) : List Text → List Text
  | [] => [s]
  | t :: ts => if s == t then t :: ts else if before s t then s :: t :: ts else t :: insertSorted s ts

/-- The texts of a list in code point order, each of them once. -/
def sortedSet (ts : List Text) : List Text := ts.foldr insertSorted []

def ofNat (n : Nat) : Text := Nat.toDigits 10 n

def ofInt : Int → Text
  | .ofNat n => ofNat n
  | .negSucc n => '-' :: ofNat (n + 1)

end Text

end UiToolkit
