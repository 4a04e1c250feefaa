import IngestCheck.Check.Cleanup
import IngestCheck.Plan

namespace IngestCheck.Check

structure Outcome where
  stages : List (Stage × Int32) := []
  exitCode : Int32 := 0
  deriving DecidableEq, Repr

def Outcome.isSuccess (o : Outcome) : Bool := o.exitCode = 0

def strict (stage : Stage) (command : Command) : Routine (Except CheckError Unit) := do
  log .info .pipeline s!"Running {stage.name} step"
  match ← runCommand command with
  | .ok status =>
    if status.code = 0 then return .ok ()
    else return .error (.stageFailed stage status.code)
  | .error .interrupted => return .error .interrupted
  | .error e => return .error (.spawn stage e)

/-- Run a step whose failure is noted and passed over. -/
def relaxed (stage : Stage) (command : Command) : Routine (Except CheckError Int32) := do
  log .info .pipeline s!"Running {stage.name} step"
  match ← runCommand command with
  | .ok .success => return .ok 0
  | .ok status =>
    log .warn .pipeline s!"{stage.name} step exited with code {status.code}, continuing"
    return .ok status.code
  | .error .interrupted => return .error .interrupted
  | .error e =>
    log .warn .pipeline s!"Could not run {stage.name} step: {e.message}, continuing"
    return .ok e.exitCode

def steps (folder : String) (plan : Plan) : Routine (Except CheckError Outcome) := do
  match ← strict .ingest plan.ingest with
  | .error e => return .error e
  | .ok () =>
    match ← relaxed .diff plan.diff with
    | .error e => return .error e
    | .ok diff =>
      match ← relaxed .copy plan.copy with
      | .error e => return .error e
      | .ok copy =>
        if copy = 0 then
          log .info .pipeline s!"Harness run for {folder} completed"
        else
          log .warn .pipeline s!"Harness run for {folder} finished with exit code {copy}"
        return .ok ⟨[(.ingest, 0), (.diff, diff), (.copy, copy)], copy⟩

/-- A dry run prints the plan and runs nothing. -/
def body (s : Settings) (dryRun : Bool) : Routine (Except CheckError Outcome) := do
  match s.apiKey with
  | .error e => return .error e
  | .ok key =>
    let plan := Plan.ofSettings s key
    if dryRun then
      print .output plan.announce
      return .ok {}
    else steps s.case.folderName plan

/-- The ingest step is strict: if it fails, the check ends with its failure. The diff and the copy
then both run, and the copy alone decides the exit code. An interruption ends the check wherever it
falls. -/
def run (s : Settings) (dryRun : Bool) : Routine (Except CheckError Outcome) :=
  guarded s.scratch (body s dryRun)

end IngestCheck.Check
