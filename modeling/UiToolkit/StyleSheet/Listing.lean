import UiToolkit.StyleSheet.Basic

/-!
# Listings

A style sheet for a reader who wants to see what was understood: each selector with the types of its segments, each declaration with the kind of its value, and the variables.
-/

namespace UiToolkit

open Text

/-- Parts of a line with two spaces between them. -/
def columns (parts : List Text) : Text := joinWith "  " parts

def Segment.listing (s : Segment) : Text := s.kind.name ++ ['('] ++ s.text ++ [')']

def Selector.listing (s : Selector) : Text :=
  "  selector " ++ s.raw ++ ": " ++ joinWith [' '] ((s.segments.filter (·.kind != .whitespace)).map Segment.listing)

def Fragment.listing (f : Fragment) : List Text :=
  ("kind=" ++ f.kind.name : Text) :: ((f.unit.filter (!·.isEmpty)).map fun unit => ("unit=" ++ unit : Text)).toList

def Declaration.listing (d : Declaration) : Text :=
  columns ([("  " ++ d.property ++ ": " ++ d.text : Text)] ++ d.value.toList.flatMap Fragment.listing
    ++ (if d.important then [("!important" : Text)] else []))

def Rule.listing (number : Nat) (r : Rule) : List Text :=
  [("Rule " ++ ofNat number ++ ":" : Text)] ++ r.selectors.map Selector.listing
    ++ r.declarations.map Declaration.listing

def rulesListing (number : Nat) : List Rule → List Text
  | [] => []
  | r :: rs => r.listing number ++ rulesListing (number + 1) rs

def Variable.listing (v : Variable) : Text :=
  "Variable " ++ v.name ++ ": type=" ++ v.type.name ++ " defined=" ++ if v.defined then "True" else "False"

def StyleSheet.listing (s : StyleSheet) : List Text :=
  [("Rules: " ++ ofNat s.rules.length : Text)]
    ++ (if s.metadata.isEmpty then [] else [("Variables: " ++ ofNat s.metadata.length : Text)])
    ++ [[]] ++ rulesListing 1 s.rules ++ s.metadata.map Variable.listing

end UiToolkit
