import UiToolkit.Css.Lexeme

/-!
# CSS nodes

Lexemes with their brackets matched. A closer closes the innermost open bracket or, where it does not fit, stands for itself; the end of the text closes whatever is open.
-/

namespace UiToolkit.Css

/-- The brackets around a list of nodes. -/
inductive Bracket where
  | round
  | square
  | curly
  deriving DecidableEq

namespace Bracket

def opener : Bracket → Char
  | round => '('
  | square => '['
  | curly => '\x7b'

def closer : Bracket → Char
  | round => ')'
  | square => ']'
  | curly => '\x7d'

def ofOpener (c : Char) : Bracket := if c == '(' then round else if c == '[' then square else curly

end Bracket

inductive Node where
  | leaf (lexeme : Lexeme)
  | block (bracket : Bracket) (content : List Node)
  | call (name : Text) (arguments : List Node)

namespace Node

/-- What opened a list of nodes. -/
inductive Opening where
  | bracket (b : Bracket)
  | call (name : Text)
  deriving DecidableEq

namespace Opening

def closer : Opening → Char
  | .bracket b => b.closer
  | .call _ => ')'

def node (o : Opening) (content : List Node) : Node :=
  match o with
  | .bracket b => .block b content
  | .call name => .call name content

def ofLexeme? : Lexeme → Option Opening
  | .opener c => some (.bracket (Bracket.ofOpener c))
  | .call name => some (.call name)
  | _ => none

end Opening

/-- The open lists around the innermost one: what opened each inner list, and the nodes before it, last one first. -/
abbrev Frames := List (Opening × List Node)

/-- Closes all open lists. -/
def close : Frames → List Node → List Node
  | [], nodes => nodes.reverse
  | (o, outer) :: frames, nodes => close frames (o.node nodes.reverse :: outer)

/-- Reads on inside the given open lists, `nodes` being the innermost one so far, last node first. -/
def nest (frames : Frames) (nodes : List Node) : List Lexeme → List Node
  | [] => close frames nodes
  | l :: ls =>
    match Opening.ofLexeme? l, l, frames with
    | some o, _, _ => nest ((o, nodes) :: frames) [] ls
    | none, .closer c, (o, outer) :: inner =>
      if o.closer == c then nest inner (o.node nodes.reverse :: outer) ls
      else nest frames (.leaf l :: nodes) ls
    | none, _, _ => nest frames (.leaf l :: nodes) ls

def ofLexemes (ls : List Lexeme) : List Node := nest [] [] ls

def ofCss (css : Text) : List Node := ofLexemes (Lexeme.ofCss css)

def isSpace : Node → Bool
  | .leaf (.space _) => true
  | _ => false

def isLiteral (text : String) : Node → Bool
  | .leaf (.literal t) => t == text.toList
  | _ => false

def isCurly : Node → Bool
  | .block .curly _ => true
  | _ => false

/-- The lines in which the nodes outside all brackets begin. -/
def topLines : List Char → List (Nat × Lexeme) → List Nat
  | _, [] => []
  | closers, (line, l) :: ls =>
    let here := if closers.isEmpty then [line] else []
    match Opening.ofLexeme? l, l with
    | some o, _ => here ++ topLines (o.closer :: closers) ls
    | none, .closer c =>
      if closers.head? == some c then topLines closers.tail ls else here ++ topLines closers ls
    | none, _ => here ++ topLines closers ls

end Node

end UiToolkit.Css
