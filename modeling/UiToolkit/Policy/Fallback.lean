import UiToolkit.Entries
import UiToolkit.Text.Nesting
import UiToolkit.Uss.Pixels

/-!
# Fallbacks

Substitutes for declarations that USS cannot take as they are. A property has a list of rules; the first one whose guard holds of the value decides, and each of its substitutes derives a value from the given one: from a template, from a table of keywords, or by a transformation.
-/

namespace UiToolkit

inductive Side where
  | top
  | right
  | bottom
  | left
  deriving DecidableEq

inductive Transformation where
  /-- The offsets of the first shadow in pixels, at most three, with a fixed color. -/
  | shadow
  /-- One side of a list of one to four values. -/
  | edge (side : Side)
  deriving DecidableEq

namespace Transformation

open Text

def all : List Transformation := [.shadow, .edge .top, .edge .right, .edge .bottom, .edge .left]

def name : Transformation → Text
  | .shadow => "shadow"
  | .edge .top => "edge-top"
  | .edge .right => "edge-right"
  | .edge .bottom => "edge-bottom"
  | .edge .left => "edge-left"

def ofName? (n : Text) : Option Transformation := all.find? (·.name == n)

def shadowColor : Text := "rgba(0, 0, 0, 0.4)"

/-- The terms in pixels up to the first that is no length; the term that finds no room is still read. -/
def leadingLengths : Nat → List Text → Except RoundingError (List Text)
  | _, [] => .ok []
  | room, term :: terms => do
    match ← Pixels.ofTerm? term, room with
    | some px, room + 1 => return px :: (← leadingLengths room terms)
    | _, _ => return []
termination_by structural _ terms => terms

def shadowText (value : Text) : Except RoundingError (Option Text) := do
  let offsets ← leadingLengths 3 (words (firstTopLevel ',' value))
  return if offsets.isEmpty then none else some (joinWith [' '] (offsets ++ [shadowColor]))

/-- The side of a box that a list of values gives it, the opposite side standing in for a missing one. -/
def edge? (side : Side) : List Text → Option Text
  | [all] => some all
  | [vertical, horizontal] => some (match side with
    | .top | .bottom => vertical
    | .right | .left => horizontal)
  | [top, horizontal, bottom] => some (match side with
    | .top => top
    | .bottom => bottom
    | .right | .left => horizontal)
  | [top, right, bottom, left] => some (match side with
    | .top => top
    | .right => right
    | .bottom => bottom
    | .left => left)
  | _ => none

def result? (t : Transformation) (value : Text) : Except RoundingError (Option Text) :=
  match t with
  | .shadow => shadowText value
  | .edge side => .ok (edge? side (words value))

end Transformation

/-- Where a substitute takes its value from. -/
inductive Filling where
  /-- The text, with the given value in place of every `$value`. -/
  | template (text : Text)
  /-- The entry for the given value in lower case. -/
  | keywords (table : Entries Text)
  | transformation (t : Transformation)
  | nothing

namespace Filling

open Text

def fill? (f : Filling) (value : Text) : Except RoundingError (Option Text) :=
  match f with
  | .template text => .ok (some (replaceAll "$value" value text))
  | .keywords table => .ok (table.get? (lower (trim value)))
  | .transformation t => t.result? value
  | .nothing => .ok none

end Filling

structure Substitute where
  property : Text
  filling : Filling

/-- Conditions on a value in lower case; those that are left out hold. -/
structure Guard where
  equals : Option (List Text)
  notEquals : Option (List Text)
  contains : Option Text

namespace Guard

open Text

def always : Guard := ⟨none, none, none⟩

def holds (g : Guard) (value : Text) : Bool :=
  let lowered := lower (trim value)
  g.equals.all (·.contains lowered) && g.notEquals.all (!·.contains lowered)
    && g.contains.all (occursIn · lowered)

end Guard

structure Fallback where
  guard : Guard
  substitutes : List Substitute

/-- Fallbacks by property name in lower case. -/
abbrev FallbackTable := Entries (List Fallback)

namespace FallbackTable

open Text

def ofEntries (entries : Entries (List Fallback)) : FallbackTable := entries.mapNames lower

def knows (table : FallbackTable) (property : Text) : Bool := (table.get? (lower property)).isSome

def rulesFor (table : FallbackTable) (property : Text) : List Fallback := (table.get? (lower property)).getD []

/-- The declarations that stand in for the given one, those with a blank value left out. -/
def synthesize (table : FallbackTable) (property value : Text) : Except RoundingError (List (Text × Text)) :=
  match (table.rulesFor property).find? (·.guard.holds value) with
  | none => .ok []
  | some rule => do
    let filled ← rule.substitutes.mapM fun s => return (s.property, trim ((← s.filling.fill? value).getD []))
    return filled.filter fun (_, text) => !text.isEmpty

def whenEquals (values : List Text) (substitutes : List Substitute) : Fallback :=
  ⟨⟨some values, none, none⟩, substitutes⟩

def bundled : FallbackTable :=
  [
    ("display",
      [whenEquals ["flex", "inline-flex"]
          [⟨"flex-direction", .template "row"⟩, ⟨"align-items", .template "stretch"⟩,
            ⟨"justify-content", .template "flex-start"⟩],
        whenEquals ["none"] [⟨"display", .template "none"⟩]]),
    ("text-align",
      [⟨.always,
        [⟨"-unity-text-align", .keywords
          [("left", "middle-left"), ("start", "middle-left"), ("justify", "middle-left"),
            ("center", "middle-center"), ("right", "middle-right"), ("end", "middle-right")]⟩]⟩]),
    ("opacity", [⟨.always, [⟨"opacity", .template "$value"⟩]⟩]),
    ("box-shadow",
      [⟨⟨none, some ["none"], none⟩, [⟨"text-shadow", .transformation .shadow⟩]⟩]),
    ("font-weight",
      [whenEquals ["bold", "bolder", "600", "700", "800", "900"] [⟨"-unity-font-style", .template "bold"⟩],
        whenEquals ["normal", "lighter", "100", "200", "300", "400", "500"]
          [⟨"-unity-font-style", .template "normal"⟩]]),
    ("font-style",
      [whenEquals ["italic", "oblique"] [⟨"-unity-font-style", .template "italic"⟩]]),
    ("flex-flow",
      [⟨⟨none, none, some "column"⟩, [⟨"flex-direction", .template "column"⟩]⟩,
        ⟨⟨none, none, some "row"⟩, [⟨"flex-direction", .template "row"⟩]⟩]),
    ("inset",
      [⟨.always,
        [⟨"top", .transformation (.edge .top)⟩, ⟨"right", .transformation (.edge .right)⟩,
          ⟨"bottom", .transformation (.edge .bottom)⟩, ⟨"left", .transformation (.edge .left)⟩]⟩])
  ]

end FallbackTable

end UiToolkit
