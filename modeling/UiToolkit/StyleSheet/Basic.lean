import UiToolkit.Css.Printer
import UiToolkit.Css.Rule
import UiToolkit.StyleSheet.Source
import UiToolkit.StyleSheet.Variable

/-!
# Style sheets

Rules in the order of their source. Only rules at the top level count: what stands inside an at-rule is passed over, as is a rule that the text ends before.
-/

namespace UiToolkit

namespace RuleSource

open Text

/-- The value as text, a mark of importance written at its end. -/
def valueText (p : Css.Property) : Text :=
  let value := trim (Css.Node.print p.value)
  if p.important then value ++ " !important" else value

/-- Names are in lower case, but for custom ones. -/
def propertyName (p : Css.Property) : Text :=
  if "--".toList.isPrefixOf p.name then p.name else asciiLower p.name

def ofNodes (prelude content : List Css.Node) : RuleSource :=
  ⟨trim (Css.Node.print prelude), Entries.ofList ((Css.properties content).map fun p => (propertyName p, valueText p))⟩

def ofItem? : Css.Item → Option RuleSource
  | .rule prelude content => some (ofNodes prelude content)
  | _ => none

/-- The sources of the rules in a style sheet. -/
def ofCss (css : Text) : List RuleSource := (Css.items (Css.Node.ofCss css)).filterMap ofItem?

end RuleSource

def Rule.ofCss (css : Text) : List Rule := Rule.ofSources (RuleSource.ofCss css)

structure StyleSheet where
  rules : List Rule
  metadata : List Variable

namespace StyleSheet

def ofCss (css : Text) (metadata : List Variable) : StyleSheet := ⟨Rule.ofCss css, metadata⟩

/-- The rules with a selector for the class. -/
def rulesForClass (s : StyleSheet) (name : Text) : List Rule := s.rules.filter (·.targetsClass name)

end StyleSheet

end UiToolkit
