import IngestCheck.Check.Request
import IngestCheck.Command.Display

namespace IngestCheck

namespace Rehearsal

inductive Response where
  | status (s : ExitStatus)
  | notFound
  | interrupted
  deriving DecidableEq, Repr

structure Expectation where
  program : String
  accepts : Option (List Bytes → Bool)
  response : Response

/-- An expectation in the making. A failure, once set, goes before any status. -/
structure Draft where
  program : String
  accepts : Option (List Bytes → Bool) := none
  status : ExitStatus := .success
  failure : Option Response := none

inductive Draft.Call where
  | arguments (accepts : List Bytes → Bool)
  | exitCode (code : Int32)
  | signal (number : Int32)
  | success
  | notFound
  | interrupted

namespace Draft

def add (d : Draft) : Call → Draft
  | .arguments accepts => { d with accepts := some accepts }
  | .exitCode code => { d with status := if code = 0 then .success else .error code }
  | .signal number => { d with status := .signal number }
  | .success => { d with status := .success }
  | .notFound => { d with failure := some .notFound }
  | .interrupted => { d with failure := some .interrupted }

def build (program : String) (calls : List Call) : Draft := calls.foldl add { program }

def finish (d : Draft) : Expectation :=
  ⟨d.program, d.accepts, d.failure.getD (.status d.status)⟩

end Draft

def Expectation.fits (e : Expectation) (c : Command) : Bool :=
  c.program = Bytes.ofString e.program && (e.accepts.map (· c.arguments)).getD true

def Response.answer (c : Command) : Response → Answer
  | .status s => .ok s
  | .notFound => .error (.notFound c.programName)
  | .interrupted => .error .interrupted

end Rehearsal

structure Rehearsal where
  expectations : List Rehearsal.Expectation := []
  history : List Command := []

namespace Rehearsal

def expect (r : Rehearsal) (e : Expectation) : Rehearsal :=
  { r with expectations := r.expectations ++ [e] }

def answer (r : Rehearsal) (c : Command) : Answer :=
  match r.expectations.find? (·.fits c) with
  | some e => e.response.answer c
  | none => .error (.unexpected s!"No expectation found for command: {c.displayLine}")

/-- Answer a command and remember it. Expectations are never used up. -/
def run (r : Rehearsal) (c : Command) : Answer × Rehearsal :=
  (r.answer c, { r with history := r.history ++ [c] })

def callsTo (r : Rehearsal) (program : String) : List Command :=
  r.history.filter fun c ↦ c.program = Bytes.ofString program

end Rehearsal

end IngestCheck
