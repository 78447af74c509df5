import UiToolkit.Entries
import UiToolkit.StyleSheet.Rule
import UiToolkit.Text.Nesting
import UiToolkit.Text.Quoted
import UiToolkit.Text.Span

/-!
# Rules from their sources

The source of a rule is the text of its selectors and the texts of its declarations. Importance is written as a `!important` at the end of a value and becomes a flag. A value that holds a brace or a semicolon outside quotes could not be written back and is dropped; so are blank values, and rules left without selectors or declarations.
-/

namespace UiToolkit

structure RuleSource where
  selector : Text
  declarations : Entries Text
  deriving DecidableEq

namespace Declaration

open Text

/-- Whether `s`, the text after an exclamation mark, makes it a mark of importance at the end of a value. -/
def isImportanceTail (s : Text) : Bool :=
  let s := s.dropWhile isBlank
  startsWithAnyCase "important" s && isBlankText (s.drop "important".length)

/-- The text before the first mark of importance, if the value ends with one. -/
def beforeImportance? : Text → Option Text
  | [] => none
  | c :: cs => if c == '!' && isImportanceTail cs then some [] else (beforeImportance? cs).map (c :: ·)

def isStructural (c : Char) : Bool := c == '\x7b' || c == '\x7d' || c == ';'

/-- Whether a brace or a semicolon stands outside closed quoted strings. -/
def breaksOut (value : Text) : Bool := (dropQuoted value).any isStructural

/-- The text of a value without its mark of importance, and whether it had one. -/
def splitImportance (value : Text) : Text × Bool :=
  match beforeImportance? value with
  | some text => (trim text, true)
  | none => (value, false)

def ofSource? (property value : Text) : Option Declaration :=
  let (text, important) := splitImportance value
  if isBlankText property || breaksOut text then none
  else (Fragment.ofText? text).map fun f => ⟨trim property, some f, important⟩

/-- What is noted when a value is dropped for a brace or a semicolon. -/
def dropNote? (property value : Text) : Option Text :=
  let text := (splitImportance value).1
  if isBlankText property || !breaksOut text then none
  else some ("Dropping " ++ property ++ ": value contains a block or separator: " ++ quoted text)

end Declaration

namespace RuleSource

open Text

def selectors (raw : Text) : List Selector :=
  (((splitTopLevel ',' raw).map trim).filter (!·.isEmpty)).map Selector.ofText

def declared (s : RuleSource) : List Declaration :=
  s.declarations.filterMap fun (property, value) => Declaration.ofSource? property value

def rule? (s : RuleSource) : Option Rule :=
  let r : Rule := ⟨selectors s.selector, s.declared⟩
  if r.selectors.isEmpty || r.declarations.isEmpty then none else some r

/-- The notes on the values dropped from a rule that has selectors. -/
def dropNotes (s : RuleSource) : List Text :=
  if (selectors s.selector).isEmpty then []
  else s.declarations.filterMap fun (property, value) => Declaration.dropNote? property value

end RuleSource

def Rule.ofSources (sources : List RuleSource) : List Rule := sources.filterMap RuleSource.rule?

end UiToolkit
