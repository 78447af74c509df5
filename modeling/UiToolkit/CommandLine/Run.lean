import UiToolkit.CommandLine.Batch
import UiToolkit.CommandLine.Help
import UiToolkit.Settings.Variables
import UiToolkit.StyleSheet.Listing

/-!
# Runs

The program from its arguments to its exit code: 0 when all went well, 1 after a failure that was reported, 2 when the command line cannot be followed. A fault that nothing reports aborts the run.
-/

namespace UiToolkit

inductive Status where
  | exit (code : Nat)
  | aborted (fault : Fault)
  deriving DecidableEq

/-- What a command asks of the paths that it is given. -/
inductive Demand where
  | file (path : Text)
  | present (path : Text)
  | notFile (path : Text)
  deriving DecidableEq

namespace Demand

variable {m : Type → Type} [Monad m] [Host m]

def path : Demand → Text
  | .file path => path
  | .present path => path
  | .notFile path => path

/-- What is wrong with a demand, given what its path leads to and whether that may be read. A path that need not lead anywhere has to be readable where it does. -/
def problem? (d : Demand) (kind : Option FileKind) (readable : Bool) : Option UsageError :=
  match d, kind with
  | .file path, none => some (.noSuchPath path)
  | .present path, none => some (.noSuchPath path)
  | .notFile _, none => none
  | .file path, some .directory => some (.directoryGiven path)
  | .notFile path, some .file => some (.fileGiven path)
  | d, some _ => if readable then none else some (.notReadable d.path)

/-- The first demand that is not met. -/
def firstProblem? : List Demand → m (Option UsageError)
  | [] => return none
  | d :: ds => do
    match d.problem? (← Host.kind? d.path) (← Host.mayRead d.path) with
    | some e => return some e
    | none => firstProblem? ds

end Demand

namespace Command

open Text

variable {m : Type → Type} [Monad m] [Host m]

def settingsDemands (demand : Text → Demand) (s : SettingsPaths) : List Demand :=
  (s.config?.toList ++ s.properties?.toList ++ s.breaking?.toList).map demand

/-- Only a batch insists that its settings are files. -/
def demands : Command → List Demand
  | .convert r =>
    (r.documents ++ r.styleSheets ++ r.reset?.toList).map .file ++ settingsDemands .file r.settings
      ++ [.notFile r.output]
  | .inspect styleSheet metadata? => .file styleSheet :: metadata?.toList.map .present
  | .uss styleSheet settings => .file styleSheet :: settingsDemands .present settings

def list (verbose : Bool) (styleSheet : Text) (metadata? : Option Text) : Job m Bool := do
  let metadata ← Job.readSettings Variable.load [] metadata?
  let css ← Job.readText (Path.ofText styleSheet)
  Job.log verbose (StyleSheet.log css)
  Host.print ((StyleSheet.ofCss css metadata).listing.flatMap (· ++ ['\n']))
  return true

def printConverted (verbose : Bool) (styleSheet : Text) (settings : SettingsPaths) : Job m Bool := do
  let converter ← Job.readConverter settings
  let conversion ← Job.convertText verbose converter (← Job.readText (Path.ofText styleSheet))
  Host.print conversion.text
  Job.printSummary conversion.report
  return true

/-- Carries out a command; tells whether all went well. -/
def perform (verbose : Bool) : Command → Job m Bool
  | .convert request => Batch.run verbose request
  | .inspect styleSheet metadata? => list verbose styleSheet metadata?
  | .uss styleSheet settings => printConverted verbose styleSheet settings

end Command

namespace Request

open Text

variable {m : Type → Type} [Monad m] [Host m]

def reject (e : UsageError) : m Status := do
  Host.warn ("Error: " ++ e.message ++ "\n")
  return .exit 2

/-- Reports what ended a command early, where there is something to say. -/
def settle : Except Failure Bool → m Status
  | .ok succeeded => return .exit (if succeeded then 0 else 1)
  | .error failure => do
    match failure.message with
    | .ok message => do
      Host.warn ("Error: " ++ message ++ "\n")
      return .exit 1
    | .error fault => return .aborted fault

def answer : Request → m Status
  | .version => do
    Host.print versionText
    return .exit 0
  | .help name => do
    Host.print ((name.map CommandName.helpText).getD CommandName.programHelpText)
    return .exit 0
  | .run verbose command => do
    match ← Demand.firstProblem? command.demands with
    | some e => reject e
    | none => settle (← (command.perform verbose).run)

end Request

/-- Runs the program with the given arguments. -/
def run {m : Type → Type} [Monad m] [Host m] (arguments : List Text) : m Status :=
  match Request.ofArguments arguments with
  | .ok request => request.answer
  | .error e => Request.reject e

end UiToolkit
