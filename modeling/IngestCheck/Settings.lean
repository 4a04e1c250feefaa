import IngestCheck.Case
import IngestCheck.Failure
import IngestCheck.Log
import IngestCheck.Path
import IngestCheck.Text.Quoted

namespace IngestCheck

structure Surroundings where
  value? : String → Option Bytes
  processors : Nat
  executableDirectory : Except HostError Path
  currentDirectory : Except HostError Path

namespace Surroundings

/-- An empty variable counts as unset. -/
def nonEmpty? (s : Surroundings) (name : String) : Option Bytes :=
  (s.value? name).filter (!·.isEmpty)

def absolute (s : Surroundings) (p : Path) : Except CheckError Path :=
  if Path.isAbsolute p then .ok (Path.normal p)
  else match s.currentDirectory with
    | .ok dir => .ok (Path.normal (Path.join dir p))
    | .error e => .error (.configuration s!"cannot read the current directory: {e.message}")

end Surroundings

structure Overrides where
  scriptDirectory : Option Path := none
  ingestProgram : Option Bytes := none
  deriving DecidableEq, Repr

structure Settings where
  case : Case
  scriptDirectory : Path
  repositoryRoot : Path
  outputRoot : Path
  outputDirectory : Path
  workDirectory : Path
  maxProcesses : Bytes
  pythonPath : Bytes
  ingestProgram : Bytes
  apiKey? : Option Bytes
  deriving DecidableEq, Repr

namespace Settings

def outputRootVariable : String := "OUTPUT_ROOT"

def maxProcessesVariable : String := "MAX_PROCESSES"

def pythonPathVariable : String := "PYTHONPATH"

def chosenDirectory (s : Surroundings) (o : Overrides) : Except CheckError Path :=
  match o.scriptDirectory with
  | some dir => .ok dir
  | none => match s.executableDirectory with
    | .ok dir => .ok dir
    | .error e => .error (.configuration s!"cannot locate the harness directory: {e.message}")

def rootOf (scripts : Path) : Except CheckError Path :=
  match Path.parent? scripts with
  | some root => .ok root
  | none =>
    .error (.configuration s!"harness directory {Bytes.shown scripts} has no parent directory")

def outputRootOf (s : Surroundings) (scripts : Path) : Except CheckError Path :=
  match s.nonEmpty? outputRootVariable with
  | some root => s.absolute root
  | none => .ok scripts

def assemble (case : Case) (s : Surroundings) (o : Overrides) (scripts root output : Path) :
    Settings where
  case := case
  scriptDirectory := scripts
  repositoryRoot := root
  outputRoot := output
  outputDirectory := Path.join (Path.join output "structured-output") case.folderName
  workDirectory := Path.join (Path.join output "workdir") case.folderName
  maxProcesses :=
    (s.nonEmpty? maxProcessesVariable).getD (toString (max s.processors 1))
  pythonPath := (s.nonEmpty? pythonPathVariable).getD "."
  ingestProgram := o.ingestProgram.getD "unstructured-ingest"
  apiKey? := s.nonEmpty? case.credentialVariable

def resolve (case : Case) (s : Surroundings) (o : Overrides) : Except CheckError Settings := do
  let scripts ← s.absolute (← chosenDirectory s o)
  let root ← rootOf scripts
  let output ← outputRootOf s scripts
  return assemble case s o scripts root output

def apiKey (s : Settings) : Except CheckError Bytes :=
  match s.apiKey? with
  | some key => .ok key
  | none => .error (.missingCredential s.case.credentialVariable)

/-- The directories that a check owns and removes when it ends. -/
def scratch (s : Settings) : List Path := [s.outputDirectory, s.workDirectory]

def diffScript (s : Settings) : Path := Path.join s.scriptDirectory "check-diff-expected-output.sh"

def copyScript (s : Settings) : Path := Path.join s.scriptDirectory "evaluation-ingest-cp.sh"

/-- The settings as a log shows them: of the key only that there is one. -/
def summary (s : Settings) : String :=
  let fields := [
    ("case", Quoted.text s.case.folderName),
    ("script_dir", Quoted.bytes s.scriptDirectory),
    ("repo_root", Quoted.bytes s.repositoryRoot),
    ("output_dir", Quoted.bytes s.outputDirectory),
    ("work_dir", Quoted.bytes s.workDirectory),
    ("max_processes", Quoted.bytes s.maxProcesses),
    ("python_path", Quoted.bytes s.pythonPath),
    ("ingest_program", Quoted.bytes s.ingestProgram),
    ("api_key", if s.apiKey?.isSome then "Some(\"***\")" else "None")]
  "HarnessConfig \x7b " ++ ", ".intercalate (fields.map fun f ↦ f.1 ++ ": " ++ f.2) ++ " \x7d"

def resolvedEvent (s : Settings) : Event :=
  ⟨.debug, .settings, "Resolved harness configuration: " ++ s.summary⟩

end Settings

end IngestCheck
