import UiToolkit.Entries
import UiToolkit.Text.Blank
import UiToolkit.Text.Case

/-!
# Configuration

The assets that style sheets refer to by name, and the options for documents. Names of assets are compared in lower case and without the quotes around them; an asset with a blank path counts as missing.
-/

namespace UiToolkit

structure Config where
  /-- Paths by lower case name. -/
  assets : Entries Text
  uppercase : Bool
  /-- Whether text fields get the attribute, and with what value. -/
  focusable : Option Bool

namespace Config

open Text

def empty : Config := ⟨[], false, none⟩

def isQuote (c : Char) : Bool := c == '\'' || c == '"'

def unquoted (s : Text) : Text := trimWhile isQuote (trim s)

def assetPath? (config : Config) (name : Text) : Option Text :=
  (config.assets.get? (lower (trim (unquoted name)))).filter (!isBlankText ·)

def isAssetPath (config : Config) (path : Text) : Bool :=
  config.assets.any fun (_, p) => !isBlankText p && p == path

/-- The path of a font given by its name, or by the path itself; empty for an unknown font. -/
def fontPath (config : Config) (value : Text) : Text :=
  match config.assetPath? value with
  | some path => path
  | none => if config.isAssetPath (unquoted value) then unquoted value else []

end Config

end UiToolkit
