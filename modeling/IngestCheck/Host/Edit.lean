import IngestCheck.Host.Walk

namespace IngestCheck.Host.FileTree

def putFile (t : FileTree) (cwd : Place) (p : Path) (mode : Nat) (content : Bytes) :
    Except HostError FileTree :=
  match t.lookUpToMake cwd p with
  | .ok (place, none) => .ok (t.put place (.file mode content))
  | .ok (place, some (.file mode _)) => .ok (t.put place (.file mode content))
  | .ok (_, some .directory) => .error .isDirectory
  | .ok (_, some _) => .ok t
  | .error e => .error e

/-- The place for a new entry. A slash at the end of its path stands for a directory only. -/
def freePlace (t : FileTree) (isDirectory : Bool) (cwd : Place) (p : Path) :
    Except HostError Place := do
  let f ← t.final cwd p
  if !f.isEntry then throw .alreadyThere
  match ← f.entry? t with
  | some _ => throw .alreadyThere
  | none => if f.slashed && !isDirectory then throw .noEntry else return f.place

def makeDirectory (t : FileTree) (cwd : Place) (p : Path) : Except HostError FileTree :=
  (t.freePlace true cwd p).map fun place ↦ t.put place .directory

def stations (p : Path) : List Path :=
  let pieces := Path.pieces p
  (List.range pieces.length).map fun n ↦ List.intercalate [Path.slash] (pieces.take (n + 1))

def makeDirectories (t : FileTree) (cwd : Place) (p : Path) : Except HostError FileTree :=
  (stations p).foldlM (fun t station ↦
    if station.isEmpty then .ok t
    else match t.directory cwd station with
      | .ok _ => .ok t
      | .error (.os 2) => t.makeDirectory cwd station
      | .error e => .error e) t

def above (p : Path) : Path :=
  List.intercalate [Path.slash] (Path.pieces p).dropLast

def writeAt (t : FileTree) (place : Place) (position : Nat) (bytes : Bytes) : FileTree :=
  match t.entry? place with
  | some (.file mode content) =>
    let before := content.take position
    let gap := List.replicate (position - before.length) 0
    t.put place (.file mode (before ++ gap ++ bytes ++ content.drop (position + bytes.length)))
  | _ => t

def relocate (t : FileTree) (source target : Place) : FileTree :=
  let moved := t.entries.filterMap fun e ↦
    if source.isPrefixOf e.1 then some (target ++ e.1.drop source.length, e.2) else none
  let rest := (t.prune source).prune target
  ⟨moved ++ rest.entries⟩

/-- Give an entry another path, in place of what is there unless that is to be spared. Only an
empty directory makes room, and only for another directory. -/
def rename (t : FileTree) (spares : Bool) (cwd : Place) (p q : Path) :
    Except HostError FileTree := do
  let source ← t.final cwd p
  let target ← t.final cwd q
  if !source.isEntry then throw .busy
  if !target.isEntry then throw (if spares then .alreadyThere else .busy)
  match ← source.entry? t, ← target.entry? t with
  | none, _ => throw .noEntry
  | some moved, old =>
    if old.isSome && spares then throw .alreadyThere
    if moved ≠ .directory && (source.slashed || target.slashed) then throw .notDirectory
    if source.place = target.place then return t
    if source.place.isPrefixOf target.place then throw .invalidArgument
    if target.place.isPrefixOf source.place then throw .notEmpty
    if moved = .directory && old.any (· ≠ .directory) then throw .notDirectory
    if moved ≠ .directory && old = some .directory then throw .isDirectory
    if t.hasBelow target.place then throw .notEmpty
    return t.relocate source.place target.place

def setMode (t : FileTree) (cwd : Place) (p : Path) (mode : Nat) : Except HostError FileTree :=
  match t.find true cwd p with
  | .ok (place, .file _ content) => .ok (t.put place (.file mode content))
  | .ok _ => .ok t
  | .error e => .error e

def makeLink (t : FileTree) (cwd : Place) (p target : Path) : Except HostError FileTree :=
  if target.isEmpty then .error .noEntry
  else if pathLimit ≤ target.length then .error .nameTooLong
  else (t.freePlace false cwd p).map fun place ↦ t.put place (.link target)

def makeTwin (t : FileTree) (cwd : Place) (p target : Path) : Except HostError FileTree := do
  let (_, entry) ← t.find false cwd target
  let place ← t.freePlace false cwd p
  if entry = .directory then throw .notPermitted
  return t.put place entry

def contents (t : FileTree) (cwd : Place) (p : Path) : Except HostError Bytes :=
  match t.find true cwd p with
  | .ok (_, .file _ content) => .ok content
  | .ok (_, .directory) => .error .isDirectory
  | .ok _ => .ok []
  | .error e => .error e

def unlink (t : FileTree) (cwd : Place) (p : Path) : Except HostError FileTree := do
  let f ← t.final cwd p
  if !f.isEntry then throw .isDirectory
  match ← f.entry? t with
  | none => throw .noEntry
  | some .directory => throw .isDirectory
  | some _ => if f.slashed then throw .notDirectory else return t.erase f.place

def lastPiece (p : Path) : Bytes := (Path.pieces (Path.bare p)).getLastD []

/-- Take away an empty directory. A path that ends in a dot names none, and a link is none, even
with a slash after it. -/
def removeDirectory (t : FileTree) (cwd : Place) (p : Path) : Except HostError FileTree := do
  let f ← t.final cwd p
  if f.name = Path.dot then throw .invalidArgument
  if f.name = Path.dotDot then throw .notEmpty
  if f.name.isEmpty then throw .busy
  match ← f.entry? t with
  | none => throw .noEntry
  | some .directory => if t.hasBelow f.place then throw .notEmpty else return t.erase f.place
  | some _ => throw .notDirectory

/-- Take away a directory and everything below it, no link being followed. A link at the path
itself is taken away instead, and a file is refused. The tree that is left comes with the
answer. -/
def removeAll (t : FileTree) (cwd : Place) (p : Path) : Except HostError Unit × FileTree :=
  match t.find false cwd p with
  | .error e => (.error e, t)
  | .ok (place, .link _) => (.ok (), t.erase place)
  | .ok (place, .directory) =>
    let emptied := t.hollow place
    match emptied.removeDirectory cwd p with
    | .ok t => (.ok (), t)
    | .error (.os 2) => (.ok (), emptied)
    | .error e => (.error e, emptied)
  | .ok _ => (.error .notDirectory, t)

end IngestCheck.Host.FileTree
