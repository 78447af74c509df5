import UiToolkit.CommandLine.Host
import UiToolkit.CommandLine.Request
import UiToolkit.Html.Node
import UiToolkit.Settings.Config
import UiToolkit.Settings.Policy
import UiToolkit.StyleSheet.Log
import UiToolkit.Uss.Log

/-!
# Jobs

Steps that the commands share: reading texts, documents and settings, and converting a style sheet. A step ends early on a file that cannot be read or written, or on any other fault.
-/

namespace UiToolkit

/-- Why a step ends early. -/
inductive Failure where
  | file (e : FileError)
  | fault (f : Fault)
  deriving DecidableEq

/-- The message for a failure, or the fault that has none. -/
def Failure.message : Failure → Except Fault Text
  | .file e => .ok e.message
  | .fault f =>
    match f.message? with
    | some message => .ok message
    | none => .error f

abbrev Job (m : Type → Type) : Type → Type := ExceptT Failure m

namespace Job

variable {m : Type → Type} [Monad m] {α : Type}

def ofExcept (r : Except Fault α) : Job m α := ExceptT.mk (pure (r.mapError .fault))

def ofFile (r : Except FileError α) : Job m α := ExceptT.mk (pure (r.mapError .file))

/-- Goes on after a file that cannot be read or written, once that has been reported. -/
def attempt [Host m] (report : FileError → Text) (job : Job m α) : Job m (Option α) := ExceptT.mk do
  match ← job.run with
  | .ok a => return .ok (some a)
  | .error (.file e) => do
    Host.warn (report e)
    return .ok none
  | .error (.fault f) => return .error (.fault f)

variable [Host m]

def readText (path : Path) : Job m Text := do
  let bytes ← ofFile (← Host.read path)
  ofExcept (FileContent.decode bytes)

def writeText (path : Path) (text : Text) : Job m Unit := do
  ofFile (← Host.write path text)

def readDocument (path : Path) : Job m (List Html.Node) := do
  match Html.document? (← readText path) with
  | some nodes => return nodes
  | none => ofExcept (.error .rejectedMarkup)

/-- A settings file, or what stands in for it. -/
def readSettings (load : Text → FileContent → Except Fault α) (bundled : α) : Option Text → Job m α
  | none => return bundled
  | some path => do ofExcept (load path (← Host.read (Path.ofText path)))

def readConverter (paths : SettingsPaths) : Job m Converter := do
  let config ← readSettings Config.load .empty paths.config?
  let breaking ← readSettings Denylist.load Denylist.bundled paths.breaking?
  let properties ← readSettings PropertyTable.load PropertyTable.bundled paths.properties?
  return ⟨.ofTables properties breaking, config, FallbackTable.bundled⟩

def log (verbose : Bool) (entries : List LogEntry) : Job m Unit :=
  if verbose then entries.forM fun e => Host.warn e.line else return ()

def convertText (verbose : Bool) (c : Converter) (css : Text) : Job m Conversion := do
  let rules := Rule.ofCss css
  log verbose (StyleSheet.log css ++ c.log rules)
  ofExcept ((c.convertRules rules).mapError .rounding)

def printSummary (r : Report) : Job m Unit := r.summary.forM fun line => Host.warn (line ++ ['\n'])

end Job

end UiToolkit
