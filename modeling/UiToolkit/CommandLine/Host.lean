import UiToolkit.FileTree

/-!
# Hosts

What the commands need of the system that they run on: files and two streams of text. A world is a host of its own, all of whose state can be looked at.
-/

namespace UiToolkit

class Host (m : Type → Type) where
  /-- What a path leads to. A slash at its end asks for a directory. -/
  kind? : Text → m (Option FileKind)
  /-- Whether it is allowed to read what a path leads to. -/
  mayRead : Text → m Bool
  read : Path → m FileContent
  write : Path → Text → m (Except FileError Unit)
  /-- Makes one directory, in a directory that exists. -/
  createDirectory : Path → m (Except FileError Unit)
  print : Text → m Unit
  /-- Writes to the stream for messages. -/
  warn : Text → m Unit

namespace Host

variable {m : Type → Type} [Monad m]

instance {ε : Type} [Host m] : Host (ExceptT ε m) where
  kind? path := ExceptT.lift (kind? path)
  mayRead path := ExceptT.lift (mayRead path)
  read path := ExceptT.lift (read path)
  write path text := ExceptT.lift (write path text)
  createDirectory path := ExceptT.lift (createDirectory path)
  print text := ExceptT.lift (print text)
  warn text := ExceptT.lift (warn text)

/-- A directory that could not be made, because there is one already, is as good as made. -/
def acceptDirectory [Host m] (path : Path) (made : Except FileError Unit) : m (Except FileError Unit) := do
  match made with
  | .ok () => return .ok ()
  | .error e => return if (← kind? path.toText) == some .directory then .ok () else .error e

/-- Makes the directory with the given names, the last one first, and those on the way to it. -/
def createDirectories [Host m] (root : Text) : List Text → m (Except FileError Unit)
  | [] => do acceptDirectory ⟨root, []⟩ (← createDirectory ⟨root, []⟩)
  | name :: outer => do
    let path : Path := ⟨root, (name :: outer).reverse⟩
    match ← createDirectory path with
    | .error (.notFound _) =>
      match ← createDirectories root outer with
      | .error e => return .error e
      | .ok () => acceptDirectory path (← createDirectory path)
    | made => acceptDirectory path made

/-- Makes a directory and those on the way to it. -/
def makeDirectory [Host m] (path : Path) : m (Except FileError Unit) :=
  createDirectories path.root path.names.reverse

end Host

/-- Files, all of which may be read, and what was written to the two streams. -/
structure World where
  files : FileTree
  printed : Text
  warned : Text
  deriving DecidableEq

namespace World

def ofFiles (files : FileTree) : World := ⟨files, [], []⟩

/-- Changes the files where that is possible. -/
def change (f : FileTree → Except FileError FileTree) : StateM World (Except FileError Unit) := fun w =>
  match f w.files with
  | .ok files => (.ok (), ⟨files, w.printed, w.warned⟩)
  | .error e => (.error e, w)

instance : Host (StateM World) where
  kind? path w := (w.files.kind? path, w)
  mayRead _ w := (true, w)
  read path w := (w.files.read path, w)
  write path text := change (·.write path text)
  createDirectory path := change (·.createDirectory path)
  print text w := ((), ⟨w.files, w.printed ++ text, w.warned⟩)
  warn text w := ((), ⟨w.files, w.printed, w.warned ++ text⟩)

end World

end UiToolkit
