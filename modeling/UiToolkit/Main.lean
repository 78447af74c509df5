import UiToolkit.CommandLine.Run

/-!
# The program

The system as a host, and the program on it.
-/

namespace UiToolkit

namespace LocalHost

def pathName (path : Path) : String := String.ofList path.toText

/-- What the system says about a path that it cannot read or write. -/
def fileError (path : Path) : IO.Error → FileError
  | .noFileOrDirectory _ _ _ => .notFound path.toText
  | .permissionDenied _ _ _ => .permissionDenied path.toText
  | .alreadyExists _ _ _ => .alreadyExists path.toText
  | .hardwareFault _ _ => .inputOutput
  | .inappropriateType _ code _ => if code == 21 then .isDirectory path.toText else .notDirectory path.toText
  | _ => .notFound path.toText

def onFile {α : Type} (path : Path) (action : IO α) : IO (Except FileError α) := do
  match ← action.toBaseIO with
  | .ok a => return .ok a
  | .error e => return .error (fileError path e)

instance : Host IO where
  kind? path := do
    match ← (IO.FS.realPath (String.ofList path)).toBaseIO with
    | .error _ => return none
    | .ok found => return some (if ← found.isDir then .directory else .file)
  mayRead path := do
    match ← (IO.FS.Handle.mk (String.ofList path) .read).toBaseIO with
    | .error (.permissionDenied _ _ _) => return false
    | _ => return true
  read path := onFile path (return (← IO.FS.readBinFile (pathName path)).toList)
  write path text := onFile path (IO.FS.writeFile (pathName path) (String.ofList text))
  createDirectory path := onFile path (IO.FS.createDir (pathName path))
  print text := IO.print (String.ofList text)
  warn text := IO.eprint (String.ofList text)

end LocalHost

/-- The exit code for the way that a run ended. -/
def Status.code : Status → UInt32
  | .exit code => UInt32.ofNat code
  | .aborted _ => 1

end UiToolkit

def main (arguments : List String) : IO UInt32 := do
  let status : UiToolkit.Status ← UiToolkit.run (arguments.map String.toList)
  if let .aborted _ := status then IO.eprintln "Aborted: a file cannot be processed."
  return status.code
