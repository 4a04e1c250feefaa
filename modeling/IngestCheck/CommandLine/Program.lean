import IngestCheck.Check.Pipeline
import IngestCheck.Check.Report
import IngestCheck.CommandLine.Arguments
import IngestCheck.CommandLine.Filter
import IngestCheck.CommandLine.Line

namespace IngestCheck.CommandLine

def filterVariable : String := "RUST_LOG"

def plainVariable : String := "NO_COLOR"

def colorVariable : String := "CLICOLOR_FORCE"

def Stop.tell (colored : Bool) : Stop → Check.Routine Int32
  | .help => do
    Check.print .output (helpMessage.render colored)
    return 0
  | .version => do
    Check.print .output (versionMessage.render colored)
    return 0
  | .mistake e => do
    Check.print .errors (e.message.render colored)
    return 2

/-- Resolve the settings and run the check, reporting what fails. The words are the whole command
line, which only a trace shows. -/
def program (i : Invocation) (words : List Bytes) (s : Surroundings) : Check.Routine Int32 := do
  Check.log .debug .start s!"ingest-e2e started with verbosity level: {i.verbosity}"
  Check.log .trace .start s!"Full CLI args: {Quoted.list (words.map Quoted.bytes)}"
  match Settings.resolve .octoai s i.overrides with
  | .error e => Check.Failure.report ⟨.check e, []⟩ i.verbosity
  | .ok settings =>
    Check.log .debug .settings settings.resolvedEvent.message
    match ← Check.run settings i.dryRun with
    | .ok outcome => return outcome.exitCode
    | .error e => Check.Failure.report ⟨.check e, []⟩ i.verbosity

/-- What a command line comes to: a routine that ends with the exit code, and the line that an
event leaves in the log at a given time, if any. -/
structure Execution where
  routine : Check.Routine Int32
  line? : String → Event → Option String

def execution (name : Bytes) (arguments : List Bytes) (s : Surroundings) : Execution :=
  match read arguments with
  | .error stop =>
    let colored := colorsUnder (s.value? plainVariable) (s.value? colorVariable)
    ⟨stop.tell colored, fun _ _ ↦ none⟩
  | .ok i =>
    let shown := filter (s.value? filterVariable) i.verbosity
    let style : LineStyle := {
      targets := 2 ≤ i.verbosity
      painted := LineStyle.paintsUnder (s.value? plainVariable) }
    ⟨program i (name :: arguments) s,
      fun time e ↦ if shown.shows e then some (style.line time e) else none⟩

end IngestCheck.CommandLine
