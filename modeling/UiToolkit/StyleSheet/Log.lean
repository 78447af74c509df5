import UiToolkit.Log
import UiToolkit.StyleSheet.Basic

/-!
# The log of a style sheet

Everything in a style sheet that does not come to a rule or a declaration, in the order of the text.
-/

namespace UiToolkit.StyleSheet

open Text

def note (message : Text) : LogEntry := ⟨.debug, .styleSheet, message⟩

/-- The line of the last node outside all brackets, where an unfinished rule ends. -/
def lastLine (css : Text) : Nat := (Css.Node.topLines [] (Css.Lexeme.located 1 (Css.preprocess css))).getLast?.getD 1

def itemLog (css : Text) : Css.Item → List LogEntry
  | .rule prelude content => (RuleSource.ofNodes prelude content).dropNotes.map note
  | .atRule name => [note ("Skipping at-rule @" ++ name)]
  | .unfinished =>
    [note ("Skipping unparseable CSS at line " ++ ofNat (lastLine css)
      ++ ": EOF reached before \x7b\x7d block for a qualified rule.")]

def log (css : Text) : List LogEntry := (Css.items (Css.Node.ofCss css)).flatMap (itemLog css)

end UiToolkit.StyleSheet
