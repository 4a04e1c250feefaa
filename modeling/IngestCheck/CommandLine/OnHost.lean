import IngestCheck.CommandLine.Program
import IngestCheck.Host.Children

namespace IngestCheck.CommandLine

def surroundings (h : Host) (executable : Path) (processors : Nat) : Surroundings where
  value? name := h.value? name
  processors := processors
  executableDirectory :=
    match h.files.find true h.directory executable with
    | .ok (place, _) => .ok (Host.Place.path place.dropLast)
    | .error e => .error e
  currentDirectory := .ok (Host.Place.path h.directory)

def runOnHost (h : Host) (executable : Path) (processors : Nat) (time : String)
    (arguments : List Bytes) : Nat × Host :=
  let e := execution executable arguments (surroundings h executable processors)
  let onStop : List Event := [⟨.info, .interrupt, "Received Ctrl-C, stopping"⟩]
  let parent : Host.Parent := { host := h, line? := e.line? time, onStop }
  let (code, parent) := (e.routine.run Host.Parent.serve).run parent
  ((code.toInt % 256).toNat, parent.host)

end IngestCheck.CommandLine
