import IngestCheck.Host.FileTree
import IngestCheck.HostError

namespace IngestCheck.Host.FileTree

def linkLimit : Nat := 40

def nameLimit : Nat := 255

def pathLimit : Nat := 4096

/-- Walk along the pieces of a path from a directory. The answer holds no entry if only the last
piece is missing. -/
def walk (t : FileTree) (follow : Bool) (links : Nat) (here : Place) (rest : List Bytes) :
    Except HostError (Place × Option Entry) :=
  match rest with
  | [] => .ok (here, t.entry? here)
  | piece :: rest =>
    if piece = [] ∨ piece = Path.dot then walk t follow links here rest
    else if piece = Path.dotDot then walk t follow links here.dropLast rest
    else if nameLimit < piece.length then .error .nameTooLong
    else
      let there := here ++ [piece]
      match t.entry? there with
      | none => if rest.isEmpty then .ok (there, none) else .error .noEntry
      | some .directory => walk t follow links there rest
      | some (.link target) =>
        if rest.isEmpty && !follow then .ok (there, some (.link target))
        else match links with
          | 0 => .error .linkLoop
          | links + 1 =>
            if target.isEmpty then .error .noEntry
            else walk t follow links (if Path.isAbsolute target then [] else here)
              (Path.pieces target ++ rest)
      | some e => if rest.isEmpty then .ok (there, some e) else .error .notDirectory
termination_by (links, rest.length)

def lookUp (t : FileTree) (follow : Bool) (cwd : Place) (p : Path) :
    Except HostError (Place × Option Entry) :=
  if p.contains 0 then .error .nulByte
  else if p.isEmpty then .error .noEntry
  else if pathLimit ≤ p.length then .error .nameTooLong
  else walk t follow linkLimit (if Path.isAbsolute p then [] else cwd) (Path.pieces p)

def find (t : FileTree) (follow : Bool) (cwd : Place) (p : Path) :
    Except HostError (Place × Entry) :=
  match t.lookUp follow cwd p with
  | .ok (place, some e) => .ok (place, e)
  | .ok (_, none) => .error .noEntry
  | .error e => .error e

def leads (t : FileTree) (cwd : Place) (p : Path) : Bool := (t.find true cwd p).toBool

def directory (t : FileTree) (cwd : Place) (p : Path) : Except HostError Place :=
  match t.find true cwd p with
  | .ok (place, .directory) => .ok place
  | .ok _ => .error .notDirectory
  | .error e => .error e

/-- What a path names: an entry of a directory, unless its last piece is empty or dots. -/
structure Final where
  directory : Place
  name : Bytes
  slashed : Bool

namespace Final

def isEntry (f : Final) : Bool :=
  !f.name.isEmpty && f.name ≠ Path.dot && f.name ≠ Path.dotDot

def place (f : Final) : Place := f.directory ++ [f.name]

def entry? (f : Final) (t : FileTree) : Except HostError (Option Entry) :=
  if nameLimit < f.name.length then .error .nameTooLong else .ok (t.entry? f.place)

end Final

def final (t : FileTree) (cwd : Place) (p : Path) : Except HostError Final := do
  if p.contains 0 then throw .nulByte
  if p.isEmpty then throw .noEntry
  if pathLimit ≤ p.length then throw .nameTooLong
  let bare := Path.bare p
  let pieces := Path.pieces bare
  match ← t.walk true linkLimit (if Path.isAbsolute p then [] else cwd) pieces.dropLast with
  | (directory, some .directory) =>
    return ⟨directory, pieces.getLastD [], bare.length < p.length⟩
  | (_, some _) => throw .notDirectory
  | (_, none) => throw .noEntry

/-- Where a path leads that a file may be made at. A path that ends in a slash or in dots names a
directory, whatever is there. -/
def lookUpToMake (t : FileTree) (cwd : Place) (p : Path) :
    Except HostError (Place × Option Entry) := do
  let f ← t.final cwd p
  if f.slashed || !f.isEntry then throw .isDirectory
  t.lookUp true cwd p

end IngestCheck.Host.FileTree
