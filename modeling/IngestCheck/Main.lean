import IngestCheck.CommandLine.Program
import IngestCheck.Runner.Children
import IngestCheck.Text.Moment
import Std.Time.DateTime.Timestamp

namespace IngestCheck.Console

def variableNames : List String :=
  [Case.octoai.credentialVariable, Settings.outputRootVariable, Settings.maxProcessesVariable,
    Settings.pythonPathVariable, CommandLine.filterVariable, CommandLine.plainVariable,
    CommandLine.colorVariable]

/-- What the system tells. It does not tell how many processors there are. -/
def surroundings (program : Path) : IO Surroundings := do
  let values ← variableNames.mapM fun name ↦ do
    return (name, (← IO.getEnv name).map Bytes.ofString)
  return {
    value? := fun name ↦ (values.lookup name).join
    processors := 1
    executableDirectory := .ok ((Path.parent? program).getD [Path.slash])
    currentDirectory := .ok (Bytes.ofString (toString (← IO.currentDir))) }

def write (stream : Stream) (text : String) : IO Unit := do
  let target ← match stream with
    | .output => IO.getStdout
    | .errors => IO.getStderr
  target.putStr text
  target.flush

def note (line? : String → Event → Option String) (event : Event) : IO Unit := do
  let now ← Std.Time.Timestamp.now
  let time := Moment.text (now.toNanosecondsSinceUnixEpoch.val / 1000).toNat
  if let some line := line? time event then write .errors line

def present (path : Path) : IO Bool := do
  match Utf8.decode? path with
  | none => return false
  | some name =>
    try
      let _ ← IO.FS.Handle.mk (String.ofList name) .read
      return true
    catch _ => return false

def serveRunner (line? : String → Event → Option String) :
    (q : Children.Request) → IO q.Reply
  | .log event => note line? event
  | .stopping => return false
  | .launch _ => return .error .notImplemented
  | .await => return .stopped
  | .kill | .reap => return .ok ()

/-- Answer a check. Programs are not started and directories not removed: both are refused. -/
def serve (line? : String → Event → Option String) : (q : Check.Request) → IO q.Reply
  | .log event => note line? event
  | .print stream text => write stream text
  | .run command => (Children.run command).run (serveRunner line?)
  | .present path => present path
  | .remove _ => return .error .notImplemented

end IngestCheck.Console

open IngestCheck in
def main (arguments : List String) : IO UInt32 := do
  let program : Path := Bytes.ofString (toString (← IO.appPath))
  let e := CommandLine.execution program (arguments.map Bytes.ofString)
    (← Console.surroundings program)
  let code ← e.routine.run (Console.serve e.line?)
  return UInt32.ofNat (code.toInt % 256).toNat
