import UiToolkit.Decimal.Basic
import UiToolkit.Json.Reader
import UiToolkit.Text.Quoted

/-!
# Faults

Everything that can stop an operation. The settings files have errors of their own, which name the file; besides these there are bytes that are no text, numbers that are too long, and markup that cannot be read.
-/

namespace UiToolkit

/-- Why a path cannot be read or written. -/
inductive FileError where
  | notFound (path : Text)
  | isDirectory (path : Text)
  | notDirectory (path : Text)
  | alreadyExists (path : Text)
  | permissionDenied (path : Text)
  /-- Reading or writing breaks off, when the path has been opened already. -/
  | inputOutput
  deriving DecidableEq

def FileError.message : FileError → Text
  | .notFound path => "[Errno 2] No such file or directory: " ++ Text.quoted path
  | .isDirectory path => "[Errno 21] Is a directory: " ++ Text.quoted path
  | .notDirectory path => "[Errno 20] Not a directory: " ++ Text.quoted path
  | .permissionDenied path => "[Errno 13] Permission denied: " ++ Text.quoted path
  | .inputOutput => "[Errno 5] Input/output error"
  | .alreadyExists path => "[Errno 17] File exists: " ++ Text.quoted path

/-- Why a settings file yields no JSON value. -/
inductive LoadError where
  | file (e : FileError)
  | malformed (source : Text) (failure : Json.Failure)
  deriving DecidableEq

def LoadError.message : LoadError → Text
  | .file e => e.message
  | .malformed source failure => failure.message source

inductive ConfigError where
  | unreadable (cause : LoadError) (path : Text)
  | notObject (path : Text)
  deriving DecidableEq

inductive FallbackProblem where
  | notRules
  | noSubstitutes
  | guardNotObject
  | notStrings
  | noProperty
  | notOneFilling
  | keywordsNotObject
  | unknownTransformation (name : Text)
  deriving DecidableEq

inductive PolicyError where
  | unreadable (table : Text) (cause : LoadError) (path : Text)
  | propertiesNotObject (path : Text)
  | propertyNotObject (name path : Text)
  | breakingNotStrings (path : Text)
  | fallbacksNotObject (path : Text)
  | fallback (place : Text) (problem : FallbackProblem)
  deriving DecidableEq

inductive MetadataError where
  | missing (path : Text)
  | unreadable (cause : LoadError) (path : Text)
  | notArray (path : Text)
  deriving DecidableEq

inductive Fault where
  | config (e : ConfigError)
  | policy (e : PolicyError)
  | metadata (e : MetadataError)
  /-- A file whose bytes are no text. -/
  | undecodable
  /-- A whole number with more digits than are read. -/
  | longInteger
  /-- An array or an object where a name is looked up. -/
  | compositeName
  | rounding (e : RoundingError)
  | rejectedMarkup
  deriving DecidableEq

def inFile (message path : Text) : Text := message ++ " (" ++ path ++ ")"

def ConfigError.message : ConfigError → Text
  | .unreadable cause path => inFile ("Failed to load configuration: " ++ cause.message) path
  | .notObject path => inFile "Configuration must be a JSON object" path

def FallbackProblem.message : FallbackProblem → Text
  | .notRules => "expected a list of rules"
  | .noSubstitutes => "rule needs an 'emit' list"
  | .guardNotObject => "'when' must be an object"
  | .notStrings => "expected a string or list of strings"
  | .noProperty => "substitute needs a 'property'"
  | .notOneFilling => "substitute needs exactly one of value, map, transform"
  | .keywordsNotObject => "'map' must be an object"
  | .unknownTransformation name => "unknown transform '" ++ name ++ "'"

def PolicyError.message : PolicyError → Text
  | .unreadable table cause path => inFile ("Failed to load " ++ table ++ ": " ++ cause.message) path
  | .propertiesNotObject path => inFile "Property table must be a JSON object" path
  | .propertyNotObject name path => inFile ("Property '" ++ name ++ "' must map to an object") path
  | .breakingNotStrings path => inFile "Breaking selectors must be a JSON array of strings" path
  | .fallbacksNotObject path => inFile "Fallback table must be a JSON object" path
  | .fallback place problem => place ++ ": " ++ problem.message

def MetadataError.message : MetadataError → Text
  | .missing path => inFile "USS variable metadata file not found" path
  | .unreadable cause path => inFile ("Cannot read USS variable metadata: " ++ cause.message) path
  | .notArray path => inFile "USS variable metadata must be a JSON array" path

/-- The message of a fault that is reported to the user; the others have none. -/
def Fault.message? : Fault → Option Text
  | .config e => some e.message
  | .policy e => some e.message
  | .metadata e => some e.message
  | _ => none

end UiToolkit
