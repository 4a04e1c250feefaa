import IngestCheck.HostError

namespace IngestCheck

inductive CommandError where
  | notFound (command : String)
  | permissionDenied (command : String)
  | io (command : String) (source : HostError)
  | interrupted
  | unexpected (text : String)
  deriving DecidableEq, Repr

namespace CommandError

def message : CommandError → String
  | .notFound command => s!"Command not found: {command}"
  | .permissionDenied command => s!"Permission denied executing: {command}"
  | .io command source => s!"IO error running '{command}': {source.message}"
  | .interrupted => "Interrupted"
  | .unexpected text => s!"Mock expectation not met: {text}"

def exitCode : CommandError → Int32
  | .notFound _ => 127
  | .permissionDenied _ => 126
  | .io _ _ => 126
  | .interrupted => 130
  | .unexpected _ => 1

def chain (e : CommandError) : List String :=
  match e with
  | .io _ source => [e.message, source.message]
  | _ => [e.message]

end CommandError

inductive Stage where
  | ingest
  | diff
  | copy
  deriving DecidableEq, Repr

def Stage.name : Stage → String
  | .ingest => "ingest"
  | .diff => "expected-output diff"
  | .copy => "evaluation copy"

inductive CheckError where
  | missingCredential (variableName : String)
  | configuration (text : String)
  | stageFailed (stage : Stage) (code : Int32)
  | spawn (stage : Stage) (source : CommandError)
  | interrupted
  deriving DecidableEq, Repr

namespace CheckError

def message : CheckError → String
  | .missingCredential variableName => s!"{variableName} env var is not set"
  | .configuration text => s!"Configuration error: {text}"
  | .stageFailed stage code => s!"{stage.name} step exited with code {code}"
  | .spawn stage source => s!"Failed to run {stage.name} step: {source.message}"
  | .interrupted => "Interrupted"

def exitCode : CheckError → Int32
  | .missingCredential _ => 8
  | .configuration _ => 2
  | .stageFailed _ code => code
  | .spawn _ source => source.exitCode
  | .interrupted => 130

/-- A missing credential is an expected outcome and no failure. -/
def isSkip : CheckError → Bool
  | .missingCredential _ => true
  | _ => false

def userMessage (e : CheckError) : String :=
  if e.isSkip then s!"Skipping embedding test: {e.message}." else s!"Error: {e.message}"

def chain (e : CheckError) : List String :=
  match e with
  | .spawn _ source => e.message :: source.chain
  | _ => [e.message]

end CheckError

end IngestCheck
