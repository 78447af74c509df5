import UiToolkit.Path
import UiToolkit.Settings.File

/-!
# File trees

Files and directories by their place below a root, which is also the directory that relative paths start from. A path is followed name by name, and everything on the way has to be a directory.
-/

namespace UiToolkit

/-- The names that lead to a file or a directory, none of them special. -/
abbrev Place := List Text

inductive FileNode where
  | file (bytes : List UInt8)
  | directory
  deriving DecidableEq

inductive FileKind where
  | file
  | directory
  deriving DecidableEq

def FileNode.kind : FileNode → FileKind
  | .file _ => .file
  | .directory => .directory

structure FileTree where
  nodes : List (Place × FileNode)
  deriving DecidableEq

namespace FileTree

open Text

def empty : FileTree := ⟨[]⟩

def node? (t : FileTree) (place : Place) : Option FileNode :=
  if place.isEmpty then some .directory else t.nodes.lookup place

def put (t : FileTree) (place : Place) (node : FileNode) : FileTree :=
  ⟨(t.nodes.filter fun (p, _) => p ≠ place) ++ [(place, node)]⟩

/-- Where a name leads from a directory. -/
def step (place : Place) (name : Text) : Place :=
  if name.isEmpty || name == ['.'] then place
  else if name == ['.', '.'] then place.dropLast
  else place ++ [name]

/-- The place that the names lead to from `place`, which may be empty; `path` is named in errors. -/
def locate (t : FileTree) (path : Text) (place : Place) : List Text → Except FileError Place
  | [] => .ok place
  | name :: names =>
    match t.node? place with
    | some .directory => t.locate path (step place name) names
    | some (.file _) => .error (.notDirectory path)
    | none => .error (.notFound path)

def place (t : FileTree) (p : Path) : Except FileError Place := t.locate p.toText [] p.names

/-- What a path leads to. A slash at its end asks for a directory. -/
def kind? (t : FileTree) (path : Text) : Option FileKind :=
  if path.isEmpty then none
  else match t.locate path [] (cut Path.isSlash path) with
    | .ok place => (t.node? place).map FileNode.kind
    | .error _ => none

def read (t : FileTree) (p : Path) : FileContent := do
  match t.node? (← t.place p) with
  | some (.file bytes) => .ok bytes
  | some .directory => .error (.isDirectory p.toText)
  | none => .error (.notFound p.toText)

def write (t : FileTree) (p : Path) (text : Text) : Except FileError FileTree := do
  let place ← t.place p
  match t.node? place with
  | some .directory => .error (.isDirectory p.toText)
  | _ => .ok (t.put place (.file (utf8 text)))

def createDirectory (t : FileTree) (p : Path) : Except FileError FileTree := do
  let place ← t.place p
  match t.node? place with
  | some _ => .error (.alreadyExists p.toText)
  | none => .ok (t.put place .directory)

/-- The files with their bytes. -/
def files (t : FileTree) : List (Place × List UInt8) :=
  t.nodes.filterMap fun
    | (place, .file bytes) => some (place, bytes)
    | (_, .directory) => none

end FileTree

end UiToolkit
