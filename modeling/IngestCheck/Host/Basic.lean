import IngestCheck.Host.Edit

namespace IngestCheck

structure Host.OpenFile where
  place : Host.Place
  position : Nat := 0
  reads : Bool := false
  writes : Bool := false
  appends : Bool := false

structure Host where
  files : Host.FileTree := {}
  environment : List (Bytes × Bytes) := []
  directory : Host.Place := []
  input : Bytes := []
  output : Bytes := []
  errors : Bytes := []
  /-- While this path leads to something, a program that waits is interrupted. -/
  watched : Option Path := none
  opened : Array Host.OpenFile := #[]
  pipes : Array Bytes := #[]
  nextNumber : Nat := 4711
  sent : List (Nat × Nat) := []
  rested : Bool := false

namespace Host

def value? (h : Host) (name : Bytes) : Option Bytes := h.environment.lookup name

def interrupts (h : Host) : Bool :=
  match h.watched with
  | some p => h.files.leads h.directory p
  | none => false

def assign (name value : Bytes) (others : List (Bytes × Bytes)) : List (Bytes × Bytes) :=
  others.filter (fun v ↦ v.1 ≠ name) ++ [(name, value)]

def defaultSearchPath : Bytes := "/bin:/usr/bin"

def tools : List (String × Tool) := [
  ("[", .test), ("basename", .basename), ("bash", .shell), ("cat", .cat), ("chmod", .chmod),
  ("cp", .copy), ("dash", .shell), ("dirname", .dirname), ("echo", .echo), ("env", .env),
  ("false", .false_), ("head", .head), ("ln", .link), ("ls", .list), ("mkdir", .makeDirectory),
  ("mv", .move), ("printenv", .printVariables), ("printf", .printf), ("pwd", .printDirectory),
  ("readlink", .readLink), ("rm", .remove), ("rmdir", .removeDirectory), ("seq", .sequence),
  ("sh", .shell), ("sleep", .sleep), ("sort", .sort), ("tail", .tail), ("tee", .tee),
  ("test", .test), ("touch", .touch), ("tr", .exchange), ("true", .true_), ("wc", .wordCount)]

def place (names : List String) : Place := names.map Bytes.ofString

/-- A host as it comes: tools, a few devices and some empty directories. -/
def fresh : Host where
  files := ⟨
    (["dev", "etc", "home", "opt", "root", "tmp", "usr", "var"].map fun d ↦
      (place [d], Entry.directory)) ++
    [(place ["bin"], .link "usr/bin"),
      (place ["dev", "null"], .null),
      (place ["dev", "stdin"], .stream 0),
      (place ["dev", "stdout"], .stream 1),
      (place ["dev", "stderr"], .stream 2),
      (place ["dev", "fd"], .directory)] ++
    ((List.range 10).map fun n ↦ (place ["dev", "fd", toString n], .stream n)) ++ [
      (place ["usr", "bin"], .directory),
      (place ["usr", "local"], .directory),
      (place ["usr", "local", "bin"], .directory)] ++
    tools.map fun t ↦ (place ["usr", "bin", t.1], Entry.tool t.2)⟩
  environment := [
    ("PATH", "/usr/local/sbin:/usr/local/bin:/usr/sbin:/usr/bin:/sbin:/bin"),
    ("HOME", "/root")]

end Host

end IngestCheck
