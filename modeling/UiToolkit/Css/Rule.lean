import UiToolkit.Css.Node

/-!
# The grammar of style sheets

A style sheet is a sequence of rules. A rule that starts with an at-keyword runs to the first braces or semicolon; any other rule to the first braces, and without them it is unfinished. Between braces stand declarations, each up to a semicolon.
-/

namespace UiToolkit.Css

open Text

inductive Item where
  | rule (prelude content : List Node)
  | atRule (name : Text)
  /-- The text ends before the braces of a rule. -/
  | unfinished

def endsAtRule (node : Node) : Bool := node.isCurly || node.isLiteral ";"

theorem length_dropWhile {α : Type} (p : α → Bool) (l : List α) : (l.dropWhile p).length ≤ l.length :=
  (List.dropWhile_sublist p).length_le

/-- The rules of a style sheet. -/
def items : List Node → List Item
  | [] => []
  | node :: nodes =>
    if node.isSpace || node.isLiteral "<!--" || node.isLiteral "-->" then items nodes
    else match node with
      | .leaf (.atKeyword name) => .atRule (name.map Char.toLower) :: items ((nodes.dropWhile (!endsAtRule ·)).drop 1)
      | .block .curly content => .rule [] content :: items nodes
      | first =>
        have shorter := length_dropWhile (!Node.isCurly ·) nodes
        match h : nodes.dropWhile (!Node.isCurly ·) with
        | .block .curly content :: rest =>
          have : rest.length < nodes.length := by simp [h] at shorter; omega
          .rule (first :: nodes.takeWhile (!Node.isCurly ·)) content :: items rest
        | _ => [.unfinished]
termination_by nodes => nodes.length
decreasing_by
  · simp
  · have := length_dropWhile (!endsAtRule ·) nodes
    simp; omega
  · simp
  · simp; omega

/-- A declaration with its value, from which a mark of importance has been taken. -/
structure Property where
  name : Text
  value : List Node
  important : Bool

/-- Where a value stands with regard to a mark of importance. -/
inductive Mark where
  | none
  /-- An exclamation mark came last. -/
  | begun
  | complete
  deriving DecidableEq

def isImportant : Node → Bool
  | .leaf (.ident name) => name.map Char.toLower == "important".toList
  | _ => false

/-- The mark after one more node of the value. -/
def Mark.step (mark : Mark) (node : Node) : Mark :=
  if mark == .none && node.isLiteral "!" then .begun
  else if mark == .begun && isImportant node then .complete
  else if node.isSpace then mark
  else .none

/-- Whether the node counts as content when it comes after the given mark. -/
def Mark.takesAsContent (mark : Mark) (node : Node) : Bool :=
  !node.isSpace && !(mark == .none && node.isLiteral "!") && !(mark == .begun && isImportant node)

/-- Whether braces come after other content of the value. -/
def bracesAfterContent (mark : Mark) (content : Bool) : List Node → Bool
  | [] => false
  | node :: nodes =>
    let taken := mark.takesAsContent node
    (taken && content && node.isCurly) || bracesAfterContent (mark.step node) (content || taken) nodes

/-- The value before the mark that it ends with, if it ends with one. -/
def beforeMark? (mark : Mark) : List Node → Option (List Node)
  | [] => Option.none
  | node :: nodes =>
    match beforeMark? (mark.step node) nodes with
    | some before => some (node :: before)
    | Option.none =>
      if mark == .none && node.isLiteral "!" && nodes.foldl Mark.step .begun == .complete then some []
      else Option.none

/-- The property that the nodes of a declaration make. -/
def property? : List Node → Option Property
  | .leaf (.ident name) :: nodes =>
    match nodes.dropWhile Node.isSpace with
    | colon :: value =>
      if !colon.isLiteral ":" || bracesAfterContent .none false value then Option.none
      else match beforeMark? .none value with
        | some before => some ⟨name, before, true⟩
        | Option.none => some ⟨name, value, false⟩
    | [] => Option.none
  | _ => Option.none

/-- The declarations between braces. -/
def properties : List Node → List Property
  | [] => []
  | node :: nodes =>
    if node.isSpace || node.isLiteral ";" then properties nodes
    else match node with
      | .leaf (.atKeyword _) => properties ((nodes.dropWhile (!endsAtRule ·)).drop 1)
      | first =>
        (property? (first :: nodes.takeWhile (!Node.isLiteral ";" ·))).toList
          ++ properties ((nodes.dropWhile (!Node.isLiteral ";" ·)).drop 1)
termination_by nodes => nodes.length
decreasing_by
  · simp
  · have := length_dropWhile (!endsAtRule ·) nodes
    simp; omega
  · have := length_dropWhile (!Node.isLiteral ";" ·) nodes
    simp; omega

end UiToolkit.Css
