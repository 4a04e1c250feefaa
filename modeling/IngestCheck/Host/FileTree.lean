import IngestCheck.Path

namespace IngestCheck.Host

inductive Tool where
  | basename
  | cat
  | chmod
  | copy
  | dirname
  | echo
  | env
  | false_
  | head
  | link
  | list
  | makeDirectory
  | move
  | printDirectory
  | printVariables
  | printf
  | readLink
  | remove
  | removeDirectory
  | sequence
  | shell
  | sleep
  | sort
  | tail
  | tee
  | test
  | touch
  | exchange
  | true_
  | wordCount
  deriving DecidableEq, Repr

/-- An entry other than the root. A tool is an executable file, the null device a file that
forgets what is written to it, a stream whatever a descriptor of the program that opens it leads
to. -/
inductive Entry where
  | directory
  | file (mode : Nat) (content : Bytes)
  | link (target : Path)
  | tool (t : Tool)
  | null
  | stream (descriptor : Nat)
  deriving DecidableEq, Repr

/-- The names that lead from the root to an entry. -/
abbrev Place := List Bytes

structure FileTree where
  entries : List (Place × Entry) := []
  deriving DecidableEq

namespace FileTree

def entry? (t : FileTree) (p : Place) : Option Entry :=
  if p.isEmpty then some .directory else t.entries.lookup p

def put (t : FileTree) (p : Place) (e : Entry) : FileTree :=
  ⟨(p, e) :: t.entries.filter fun x ↦ x.1 ≠ p⟩

def erase (t : FileTree) (p : Place) : FileTree :=
  ⟨t.entries.filter fun x ↦ x.1 ≠ p⟩

def prune (t : FileTree) (p : Place) : FileTree :=
  ⟨t.entries.filter fun x ↦ !p.isPrefixOf x.1⟩

/-- Take away everything below an entry. -/
def hollow (t : FileTree) (p : Place) : FileTree :=
  ⟨t.entries.filter fun x ↦ x.1 = p || !p.isPrefixOf x.1⟩

/-- The entries below a place, each named from there, in the order of their names. -/
def below (t : FileTree) (p : Place) : List (Place × Entry) :=
  let inside := t.entries.filter fun x ↦ p.isPrefixOf x.1 && x.1 ≠ p
  (inside.map fun x ↦ (x.1.drop p.length, x.2)).mergeSort fun a b ↦ !decide (b.1 < a.1)

def hasBelow (t : FileTree) (p : Place) : Bool :=
  t.entries.any fun x ↦ p.isPrefixOf x.1 && x.1 ≠ p

end FileTree

/-- The entries below a place as people list them: directories end in a slash, links in an at
sign. -/
def FileTree.listing (t : FileTree) (p : Place) : List String :=
  (t.below p).map fun e ↦
    let mark : Bytes := match e.2 with
      | .directory => [0x2F]
      | .link _ => [0x40]
      | _ => []
    Bytes.shown (List.intercalate [Path.slash] e.1 ++ mark)

def Place.path (p : Place) : Path := Path.assemble true p

end IngestCheck.Host
