import UiToolkit.Text.Basic

/-!
# Paths

A path is a list of names with slashes between them. Empty names and points are left out; two points stay, for what they lead to depends on the files.
-/

namespace UiToolkit

structure Path where
  /-- The slashes that an absolute path begins with. -/
  root : Text
  names : List Text
  deriving DecidableEq

namespace Path

open Text

def isSlash (c : Char) : Bool := c == '/'

/-- Exactly two leading slashes are kept; any other number of them counts as one. -/
def rootOf (slashes : Nat) : Text := if slashes = 0 then [] else if slashes = 2 then "//" else "/"

def ofText (s : Text) : Path :=
  ⟨rootOf (s.takeWhile isSlash).length, (cut isSlash s).filter fun name => !name.isEmpty && name ≠ ['.']⟩

def toText (p : Path) : Text :=
  if p.root.isEmpty && p.names.isEmpty then "." else p.root ++ joinWith ['/'] p.names

/-- The path that `s` names when it is read from `p`. -/
def join (p : Path) (s : Text) : Path :=
  let q := ofText s
  if q.root.isEmpty then ⟨p.root, p.names ++ q.names⟩ else q

/-- The last name of the path. -/
def name (p : Path) : Text := p.names.getLast?.getD []

/-- The text after the last point in a name. -/
def suffix (name : Text) : Text := (name.reverse.takeWhile (· ≠ '.')).reverse

/-- The last name without its suffix. A point at either end of the name begins none. -/
def stem (p : Path) : Text :=
  let base := p.name.take (p.name.length - (suffix p.name).length - 1)
  if (suffix p.name).isEmpty || base.isEmpty then p.name else base

end Path

end UiToolkit
