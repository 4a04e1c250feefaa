import IngestCheck.Check.Request
import IngestCheck.Command.Display
import IngestCheck.Text.Quoted

namespace IngestCheck.Children

inductive Ending where
  | exited (code : UInt8)
  | killed (signal : UInt8)
  deriving DecidableEq, Repr

def Ending.status : Ending → ExitStatus
  | .exited code => if code = 0 then .success else .error (.ofNat code.toNat)
  | .killed signal => .signal (.ofNat signal.toNat)

/-- What a wait comes to: the child's end and the milliseconds it took, a failure, or a stop. -/
inductive Awaited where
  | ended (ending : Ending) (elapsed : Nat)
  | failed (e : HostError)
  | stopped
  deriving DecidableEq, Repr

inductive Request where
  | log (event : Event)
  | stopping
  | launch (command : Command)
  | await
  | kill
  | reap
  deriving DecidableEq

abbrev Request.Reply : Request → Type
  | log _ => Unit
  | stopping => Bool
  | launch _ | kill | reap => Except HostError Unit
  | await => Awaited

abbrev Routine := Script Request Request.Reply

def log (level : Level) (message : String) : Routine Unit :=
  Script.request (Request.log ⟨level, .children, message⟩)

def stopping : Routine Bool := Script.request Request.stopping

def launch (command : Command) : Routine (Except HostError Unit) :=
  Script.request (Request.launch command)

def await : Routine Awaited := Script.request Request.await

def kill : Routine (Except HostError Unit) := Script.request Request.kill

def reap : Routine (Except HostError Unit) := Script.request Request.reap

def announce (c : Command) : Routine Unit := do
  log .debug s!"Executing subprocess: {c.displayLine}"
  if !c.bindings.isEmpty then
    log .trace s!"Environment overrides: {Quoted.mapping c.bindings.entries}"
  match c.directory with
  | some dir => log .trace s!"Working directory: {Quoted.bytes dir}"
  | none => return ()

def launchError (c : Command) (e : HostError) : CommandError :=
  match e.kind with
  | .notFound => .notFound c.programName
  | .permissionDenied => .permissionDenied c.programName
  | _ => .io c.displayLine e

def conclude (c : Command) (status : ExitStatus) (elapsed : Nat) : Routine Unit :=
  match status with
  | .success =>
    log .debug s!"Subprocess completed successfully in {elapsed}ms: {c.displayLine}"
  | .error code =>
    log .debug s!"Subprocess failed with exit code {code} in {elapsed}ms: {c.displayLine}"
  | .signal number =>
    log .warn s!"Subprocess terminated by signal {number} in {elapsed}ms: {c.displayLine}"

/-- End the child. A refusal is only noted. -/
def strike (c : Command) : Routine Unit := do
  match ← kill with
  | .ok () => return ()
  | .error e => log .debug s!"Kill of {c.programName} failed: {e.message}"

def collect (c : Command) : Routine Unit := do
  match ← reap with
  | .ok () => return ()
  | .error e => log .warn s!"Failed to reap {c.programName}: {e.message}"

def stop (c : Command) : Routine Unit := do
  log .warn s!"Interrupted, stopping {c.programName}"
  strike c
  collect c

def run (c : Command) : Routine Answer := do
  if ← stopping then
    log .debug s!"Shutdown requested, not starting {c.programName}"
    return .error .interrupted
  else
    announce c
    match ← launch c with
    | .error e =>
      log .error s!"Failed to spawn '{c.programName}': {e.message} (kind: {e.kind.name})"
      return .error (launchError c e)
    | .ok () =>
      match ← await with
      | .stopped =>
        stop c
        return .error .interrupted
      | .failed e => return .error (.io c.displayLine e)
      | .ended ending elapsed =>
        conclude c ending.status elapsed
        return .ok ending.status

end IngestCheck.Children
