namespace IngestCheck

inductive Level where
  | error
  | warn
  | info
  | debug
  | trace
  deriving DecidableEq, Repr

namespace Level

def name : Level → String
  | .error => "ERROR"
  | .warn => "WARN"
  | .info => "INFO"
  | .debug => "DEBUG"
  | .trace => "TRACE"

def verbosity : Level → Nat
  | .error => 1
  | .warn => 2
  | .info => 3
  | .debug => 4
  | .trace => 5

def ofName? (name : String) : Option Level :=
  [error, warn, info, debug, trace].find? fun l ↦ l.name.toLower = name.toLower

end Level

inductive Source where
  | start
  | settings
  | pipeline
  | cleanup
  | children
  | report
  | interrupt
  deriving DecidableEq, Repr

def Source.target : Source → String
  | .start => "ingest_e2e::app::logging"
  | .settings => "ingest_e2e::harness::config"
  | .pipeline => "ingest_e2e::harness::pipeline"
  | .cleanup => "ingest_e2e::harness::cleanup"
  | .children => "ingest_e2e::subprocess::runner"
  | .report => "ingest_e2e::app::error_handling"
  | .interrupt => "ingest_e2e::app::runtime"

structure Event where
  level : Level
  source : Source
  message : String
  deriving DecidableEq, Repr

end IngestCheck
