import UiToolkit.Text.Case

/-!
# Variables

What is known about a custom property of a reference theme.
-/

namespace UiToolkit

inductive VariableType where
  | assetReference
  | integer
  | keyword
  | length
  | unknown
  deriving DecidableEq

namespace VariableType

def name : VariableType → Text
  | assetReference => "asset-reference"
  | integer => "integer"
  | keyword => "keyword"
  | length => "length"
  | unknown => "unknown"

def ofName (n : Text) : VariableType :=
  ([assetReference, integer, keyword, length].find? (·.name == Text.lower n)).getD unknown

end VariableType

structure Variable where
  name : Text
  type : VariableType
  defined : Bool
  example? : Option Text
  linesDefined : List Int
  linesReferenced : List Int
  deriving DecidableEq

namespace Variable

def belongsTo (area : String) (v : Variable) : Bool := area.toList.isPrefixOf (Text.lower v.name)

def isUnity (v : Variable) : Bool := v.belongsTo "--unity-"

def isTheme (v : Variable) : Bool := v.belongsTo "--theme-"

end Variable

end UiToolkit
