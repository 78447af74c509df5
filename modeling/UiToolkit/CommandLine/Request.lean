import UiToolkit.CommandLine.Switch

/-!
# Requests

What a command line asks for. The switches before the name of a command belong to the program, those after it to the command. Asking for the version or for help comes before everything that may be wrong with the meaning of the other arguments, but not before a switch that cannot be read.
-/

namespace UiToolkit

inductive CommandName where
  | convert
  | inspect
  | uss
  deriving DecidableEq

/-- The files that stand in for the bundled settings. -/
structure SettingsPaths where
  config? : Option Text
  properties? : Option Text
  breaking? : Option Text
  deriving DecidableEq

/-- HTML documents and style sheets to convert into files of a directory. -/
structure BatchRequest where
  documents : List Text
  styleSheets : List Text
  /-- A style sheet that comes after all others. -/
  reset? : Option Text
  settings : SettingsPaths
  output : Text
  /-- Whether the styles of the documents are extracted when no style sheet is given. -/
  extract : Bool
  /-- The name for extracted style sheets, instead of one after each document. -/
  outputName? : Option Text
  deriving DecidableEq

inductive Command where
  | convert (request : BatchRequest)
  | inspect (styleSheet : Text) (metadata? : Option Text)
  | uss (styleSheet : Text) (settings : SettingsPaths)
  deriving DecidableEq

inductive Request where
  | version
  /-- Help on a command, or on the program. -/
  | help (command : Option CommandName)
  | run (verbose : Bool) (command : Command)
  deriving DecidableEq

namespace CommandName

open Text

def all : List CommandName := [.convert, .inspect, .uss]

def name : CommandName → Text
  | .convert => "convert"
  | .inspect => "inspect"
  | .uss => "uss"

def ofName? (n : Text) : Option CommandName := all.find? (·.name == n)

def explanation : CommandName → Text
  | .convert => "Convert HTML files to UXML and their stylesheets to USS."
  | .inspect => "Parse a stylesheet and display its rules."
  | .uss => "Convert a CSS file to USS and print it."

def helpSwitch : Switch := ⟨.help, ["--help"], false, "Show this message and exit."⟩

def programSwitches : List Switch := [
  ⟨.version, ["--version"], false, "Show the version and exit."⟩,
  ⟨.verbose, ["-v", "--verbose"], false, "Log conversion details to stderr"⟩,
  helpSwitch]

def configSwitch : Switch := ⟨.config, ["-c", "--config"], true, "JSON configuration (assets, options)"⟩

def policySwitches : List Switch := [
  ⟨.properties, ["--properties"], true, "Custom USS property table"⟩,
  ⟨.breaking, ["--breaking"], true, "Custom breaking-selector list"⟩]

def switches : CommandName → List Switch
  | .convert => [
      ⟨.input, ["-i", "--input"], true, "HTML file to convert (repeatable)"⟩,
      ⟨.styleSheet, ["--css"], true, "CSS file to convert (repeatable)"⟩,
      ⟨.reset, ["--reset"], true, "Reset stylesheet, converted last"⟩,
      configSwitch,
      ⟨.output, ["-o", "--output"], true, "Output directory"⟩,
      ⟨.extraction, ["--extract-css"], false, "Extract <style> blocks from the HTML when no --css is given"⟩,
      ⟨.noExtraction, ["--no-extract-css"], false, "Leave the <style> blocks of the HTML alone"⟩,
      ⟨.outputName, ["--css-output-name"], true, "Base name for extracted CSS files"⟩]
      ++ policySwitches ++ [helpSwitch]
  | .inspect => [⟨.metadata, ["--variables"], true, "USS variable metadata (JSON)"⟩, helpSwitch]
  | .uss => [configSwitch] ++ policySwitches ++ [helpSwitch]

/-- The name that the argument of a command goes by. -/
def argument? : CommandName → Option Text
  | .convert => none
  | .inspect => some "CSSFILE"
  | .uss => some "CSSFILE"

end CommandName

namespace SettingsPaths

def ofArguments (a : Arguments) : SettingsPaths := ⟨a.value? .config, a.value? .properties, a.value? .breaking⟩

end SettingsPaths

namespace BatchRequest

/-- Of the two switches on extraction, the last one wins. -/
def wantsExtraction (a : Arguments) : Bool :=
  ((a.settings.map Prod.fst).filter fun s => s == .extraction || s == .noExtraction).getLast? != some .noExtraction

def ofArguments (a : Arguments) : Except UsageError BatchRequest :=
  match a.others, a.values .input, a.value? .output with
  | argument :: _, _, _ => .error (.unexpectedArgument argument)
  | [], [], _ => .error (.switchMissing "--input")
  | [], _ :: _, none => .error (.switchMissing "--output")
  | [], documents, some output =>
    .ok ⟨documents, a.values .styleSheet, a.value? .reset, .ofArguments a, output, wantsExtraction a,
      (a.value? .outputName).filter (!·.isEmpty)⟩

end BatchRequest

namespace Command

def onlyArgument (a : Arguments) : Except UsageError Text :=
  match a.others with
  | [] => .error (.argumentMissing "CSSFILE")
  | [argument] => .ok argument
  | _ :: argument :: _ => .error (.unexpectedArgument argument)

def ofArguments (name : CommandName) (a : Arguments) : Except UsageError Command :=
  match name with
  | .convert => (BatchRequest.ofArguments a).map .convert
  | .inspect => (onlyArgument a).map fun styleSheet => .inspect styleSheet (a.value? .metadata)
  | .uss => (onlyArgument a).map fun styleSheet => .uss styleSheet (.ofArguments a)

end Command

namespace Request

open Text

def ofCommand (verbose : Bool) (name : CommandName) (arguments : List Text) : Except UsageError Request := do
  let a ← Arguments.read name.switches true arguments
  if a.has .help then return .help (some name)
  else return .run verbose (← Command.ofArguments name a)

def ofArguments (arguments : List Text) : Except UsageError Request := do
  let a ← Arguments.read CommandName.programSwitches false arguments
  match (a.settings.map Prod.fst).find? (· ≠ .verbose), a.others with
  | some .version, _ => return .version
  | some _, _ => return .help none
  | none, [] => .error .commandMissing
  | none, name :: rest =>
    match CommandName.ofName? name with
    | some name => ofCommand (a.has .verbose) name rest
    | none => .error (.unknownCommand name)

end Request

end UiToolkit
