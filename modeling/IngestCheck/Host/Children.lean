import IngestCheck.Host.Shell.Evaluation
import IngestCheck.Runner.Children

namespace IngestCheck.Host

structure Child where
  image : Image
  directory : Place
  environment : List Bytes

def handedOver (c : Command) : List Bytes :=
  c.words ++ (c.bindings.entries.flatMap fun v ↦ [Bytes.ofString v.1, v.2]) ++ c.directory.toList

/-- The variables of a child, in the order of their names if the command sets any. -/
def childVariables (h : Host) (c : Command) : List (Bytes × Bytes) :=
  let own := c.bindings.entries
  if own.isEmpty then h.environment
  else
    let all := own.foldl (fun vs v ↦ assign (Bytes.ofString v.1) v.2 vs) h.environment
    all.mergeSort fun a b ↦ !decide (b.1 < a.1)

/-- Prepare to start a command. The working directory is entered first, so that it decides what a
relative path of the program means. A search path that the command itself sets is searched for a
bare name, and then the shell reads what is in no format that the host knows. -/
def prepare (h : Host) (c : Command) : Except HostError Child := do
  if (handedOver c).any (·.contains 0) then throw .nulByte
  let directory ← match c.directory with
    | some dir => h.files.directory h.directory dir
    | none => .ok h.directory
  let environment := (h.childVariables c).map fun v ↦ v.1 ++ 0x3D :: v.2
  let own := (c.bindings.entries.find? (·.1 = "PATH")).map (·.2)
  let searches := !c.program.contains Path.slash
  let startAt (path : Path) : Except HostError Image :=
    if own.isSome && searches then h.files.startOrRead directory environment path c.words
    else h.files.start directory environment path c.words
  let searchPath := (own.or (h.value? "PATH")).getD defaultSearchPath
  let image ← FileTree.search startAt searchPath c.program
  return { image, directory, environment }

/-- Bounds how deep a child's evaluation goes. -/
def evaluationDepth : Nat := 10000

/-- Run a child. No ending means that it was left waiting. -/
def carryOut (h : Host) (c : Child) : Option Children.Ending × Host :=
  let process : Process := {
    host := { h with nextNumber := h.nextNumber + 1 }
    number := h.nextNumber
    directory := c.directory
    environment := c.environment }
  let (result, after) := (Shell.program evaluationDepth c.image).run.run process
  let ending := match result with
    | .ok status => some (.exited (.ofNat status))
    | .error (.killed signal) => some (.killed (.ofNat signal))
    | .error .paused => none
  (ending, after.host)

/-- Somebody who starts one child at a time and may be asked to stop. -/
structure Parent where
  host : Host
  child : Option Child := none
  stopRequested : Bool := false
  events : List Event := []
  line? : Event → Option String := fun _ ↦ none
  onStop : List Event := []

namespace Parent

def note (p : Parent) (event : Event) : Parent :=
  let host := match p.line? event with
    | some line => { p.host with errors := p.host.errors ++ Bytes.ofString line }
    | none => p.host
  { p with host, events := p.events ++ [event] }

def answer : (q : Children.Request) → StateM Parent q.Reply
  | .log event => modify (·.note event)
  | .stopping => return (← get).stopRequested
  | .launch command => do
    let p ← get
    match p.host.prepare command with
    | .ok child =>
      set { p with child := some child }
      return .ok ()
    | .error e => return .error e
  | .await => do
    let p ← get
    match p.child with
    | none => return .ended (.exited 0) 0
    | some child =>
      match p.host.carryOut child with
      | (some ending, host) =>
        set { p with host, child := none }
        return .ended ending 0
      | (none, host) =>
        set (p.onStop.foldl note { p with host, stopRequested := true })
        return .stopped
  | .kill => return .ok ()
  | .reap => do
    modify fun p ↦ { p with child := none }
    return .ok ()

def perform (c : Command) : StateM Parent Answer := (Children.run c).run answer

def print (p : Parent) (stream : Stream) (text : String) : Parent :=
  match stream with
  | .output => { p with host := { p.host with output := p.host.output ++ Bytes.ofString text } }
  | .errors => { p with host := { p.host with errors := p.host.errors ++ Bytes.ofString text } }

def remove (path : Path) : StateM Parent (Except HostError Unit) := do
  let p ← get
  let (result, files) := p.host.files.removeAll p.host.directory path
  set { p with host := { p.host with files } }
  return result

def serve : (q : Check.Request) → StateM Parent q.Reply
  | .log event => modify (·.note event)
  | .print stream text => modify (·.print stream text)
  | .run command => perform command
  | .present path => return (← get).host.files.leads (← get).host.directory path
  | .remove path => remove path

end Parent

end IngestCheck.Host
