import UiToolkit.CommandLine.Job
import UiToolkit.Html.Style
import UiToolkit.Uxml.Log

/-!
# Batches

Many files are converted in one run. Each output is named after its input and put into one directory. A file that cannot be read or written is reported and the others go on; a fault in the contents of a file ends the batch.
-/

namespace UiToolkit.Batch

open Text

variable {m : Type → Type} [Monad m] [Host m]

def extractionFailure (path : Path) (e : FileError) : Text :=
  "Failed to extract CSS from '" ++ path.toText ++ "': " ++ e.message ++ "\n"

def documentFailure (path : Path) (e : FileError) : Text :=
  "Failed to process HTML file '" ++ path.toText ++ "': " ++ e.message ++ "\n"

def styleSheetFailure (path : Path) (e : FileError) : Text :=
  "Failed to process CSS file '" ++ path.toText ++ "': " ++ e.message ++ "\n"

def directoryFailure (path : Path) (e : FileError) : Text :=
  "Failed to create output directory '" ++ path.toText ++ "': " ++ e.message ++ "\n"

/-- Where the styles of a document are put. -/
def extractedPath (r : BatchRequest) (directory document : Path) : Path :=
  directory.join (r.outputName?.getD (document.stem ++ "-styles") ++ ".css")

def documentPath (directory document : Path) : Path := directory.join (document.stem ++ ".uxml")

def styleSheetPath (directory styleSheet : Path) : Path := directory.join (styleSheet.stem ++ ".uss")

/-- Puts the styles of a document into a file of their own, if there are any. -/
def extract (r : BatchRequest) (directory document : Path) : Job m (Option Path) := do
  let blocks := Html.styleBlocks true (← Job.readDocument document)
  if blocks.isEmpty then return none
  else
    let target := extractedPath r directory document
    Job.writeText target (Html.StyleBlock.combined blocks)
    Host.print (target.name ++ " CSS extracted\n")
    return some target

/-- For each document, whether its styles could be looked for and where they are. -/
def extractAll (r : BatchRequest) (directory : Path) (documents : List Path) : Job m (List (Option (Option Path))) := do
  if r.extract && r.styleSheets.isEmpty then
    Host.print "Extracting CSS from HTML files...\n"
    documents.mapM fun document => Job.attempt (extractionFailure document) (extract r directory document)
  else return []

def convertDocument (verbose : Bool) (config : Config) (directory document : Path) : Job m Unit := do
  let nodes ← Job.readDocument document
  Job.log verbose (Uxml.log nodes)
  Job.writeText (documentPath directory document) (Uxml.ofDocument config nodes)
  Host.print (document.stem ++ " UXML written\n")

def convertStyleSheet (verbose : Bool) (c : Converter) (directory styleSheet : Path) : Job m Unit := do
  let conversion ← Job.convertText verbose c (← Job.readText styleSheet)
  Job.writeText (styleSheetPath directory styleSheet) conversion.text
  Job.printSummary conversion.report
  Host.print (styleSheet.stem ++ " USS written\n")

/-- Converts all files into a directory, which exists; tells whether every file could be read and written. -/
def convertAll (verbose : Bool) (c : Converter) (r : BatchRequest) (directory : Path) : Job m Bool := do
  let documents := r.documents.map Path.ofText
  let extracted ← extractAll r directory documents
  let converted ← documents.mapM fun document =>
    Job.attempt (documentFailure document) (convertDocument verbose c.config directory document)
  let styleSheets := r.styleSheets.map Path.ofText ++ extracted.filterMap Option.join
    ++ r.reset?.toList.map Path.ofText
  let styled ← styleSheets.mapM fun styleSheet =>
    Job.attempt (styleSheetFailure styleSheet) (convertStyleSheet verbose c directory styleSheet)
  return extracted.all Option.isSome && converted.all Option.isSome && styled.all Option.isSome

def run (verbose : Bool) (r : BatchRequest) : Job m Bool := do
  let converter ← Job.readConverter r.settings
  let directory := Path.ofText r.output
  match ← Host.makeDirectory directory with
  | .ok () => convertAll verbose converter r directory
  | .error e => do
    Host.warn (directoryFailure directory e)
    return false

end UiToolkit.Batch
