import IngestCheck.Check.Pipeline
import IngestCheck.Check.Report
import IngestCheck.Host.Children
import IngestCheck.Runner.Recital
import IngestCheck.Runner.Rehearsal

namespace IngestCheck

/-- The runner of a session. Only one that starts children may be interrupted. -/
inductive Performer where
  | rehearsal (r : Rehearsal)
  | recital (r : Recital)
  | children (interruptible : Bool)

structure Session where
  parent : Host.Parent
  performer : Performer
  settings : Option Settings := none

namespace Session

def host (s : Session) : Host := s.parent.host

def mapHost (f : Host → Host) (s : Session) : Session :=
  { s with parent := { s.parent with host := f s.parent.host } }

def lift {α : Type} (act : StateM Host.Parent α) : StateM Session α := do
  let s ← get
  let (result, parent) := act.run s.parent
  set { s with parent }
  return result

def perform (c : Command) : StateM Session Answer := do
  let s ← get
  match s.performer with
  | .rehearsal r =>
    let (a, r) := r.run c
    set { s with performer := .rehearsal r }
    return a
  | .recital r =>
    let (a, r) := r.run c
    set { s with performer := .recital r }
    return a
  | .children _ => lift (Host.Parent.perform c)

def answer : (q : Check.Request) → StateM Session q.Reply
  | .run command => perform command
  | .log event => lift (Host.Parent.serve (.log event))
  | .print stream text => lift (Host.Parent.serve (.print stream text))
  | .present path => lift (Host.Parent.serve (.present path))
  | .remove path => lift (Host.Parent.serve (.remove path))

def follow {α : Type} (routine : Check.Routine α) : StateM Session α := routine.run answer

def clear (s : Session) : Session :=
  { s with parent := { s.parent with
    events := []
    host := { s.parent.host with output := [], errors := [] } } }

/-- Watch a path whose appearance interrupts the next wait, if the runner heeds such a stop. -/
def watch (path : Option Path) (s : Session) : Session :=
  match s.performer with
  | .children true => s.mapHost fun h ↦ { h with watched := path }
  | _ => s.mapHost fun h ↦ { h with watched := none }

def shutDown (value : Bool) (s : Session) : Session :=
  match s.performer with
  | .children true => { s with parent := { s.parent with stopRequested := value } }
  | _ => s

/-- Change the files, leaving them as they are if the host refuses. -/
def changeFiles (change : Host.FileTree → Host.Place → Except HostError Host.FileTree) :
    StateM Session (Except HostError Unit) := do
  let h := (← get).host
  match change h.files h.directory with
  | .ok files =>
    modify (mapHost fun h ↦ { h with files })
    return .ok ()
  | .error e => return .error e

def makeDirectory (path : Path) : StateM Session (Except HostError Unit) :=
  changeFiles fun t cwd ↦ t.makeDirectories cwd path

def putFile (path : Path) (content : Bytes) (mode : Nat) :
    StateM Session (Except HostError Unit) :=
  changeFiles fun t cwd ↦ do
    let t ← t.makeDirectories cwd (Host.FileTree.above path)
    let t ← t.putFile cwd path mode content
    t.setMode cwd path mode

def makeLink (path target : Path) : StateM Session (Except HostError Unit) :=
  changeFiles fun t cwd ↦ t.makeLink cwd path target

def unlink (path : Path) : StateM Session (Except HostError Unit) :=
  changeFiles fun t cwd ↦ t.unlink cwd path

def resolve (case : Case) (s : Surroundings) (o : Overrides) :
    StateM Session (Except CheckError Unit) := do
  match Settings.resolve case s o with
  | .ok settings =>
    modify fun session ↦ { session with settings := some settings }
    modify fun session ↦ { session with parent := session.parent.note settings.resolvedEvent }
    return .ok ()
  | .error e => return .error e

def expect (e : Rehearsal.Expectation) (s : Session) : Session :=
  match s.performer with
  | .rehearsal r => { s with performer := .rehearsal (r.expect e) }
  | _ => s

def history (s : Session) : List Command :=
  match s.performer with
  | .rehearsal r => r.history
  | .recital r => r.history
  | .children _ => []

def callsTo (s : Session) (program : String) : List Command :=
  match s.performer with
  | .rehearsal r => r.callsTo program
  | _ => []

/-- Whether a program is among the remembered commands as often as expected. Runners that
remember none were asked for it zero times. -/
def verifyCalled (s : Session) (program : String) (times : Nat) : Bool :=
  (s.callsTo program).length = times

def check (settings : Settings) (dryRun : Bool) :
    StateM Session (Except CheckError Check.Outcome) :=
  follow (Check.run settings dryRun)

def report (e : CheckError) (verbosity : Nat) : StateM Session Int32 :=
  follow (Check.Failure.report ⟨.check e, []⟩ verbosity)

def tidy (path : Path) : StateM Session (Except HostError Bool) := follow (Check.tidy path)

def guard (dirs : List Path) : StateM Session Unit := follow (Check.guarded dirs (pure ()))

end Session

end IngestCheck
