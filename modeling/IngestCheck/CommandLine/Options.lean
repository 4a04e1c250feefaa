namespace IngestCheck.CommandLine

inductive ValueOption where
  | scriptDirectory
  | ingestProgram
  deriving DecidableEq, Repr

inductive Switch where
  | verbose
  | dryRun
  | help
  | version
  deriving DecidableEq, Repr

inductive KnownOption where
  | switch (s : Switch)
  | valued (o : ValueOption)
  deriving DecidableEq, Repr

namespace KnownOption

def all : List KnownOption :=
  [.switch .verbose, .valued .scriptDirectory, .valued .ingestProgram, .switch .dryRun,
    .switch .help, .switch .version]

/-- Whether an option shapes a run. The others ask for a text instead of one. -/
def shapesRun : KnownOption → Bool
  | .switch .help | .switch .version => false
  | _ => true

def name : KnownOption → String
  | .switch .verbose => "verbose"
  | .valued .scriptDirectory => "script-dir"
  | .valued .ingestProgram => "ingest-program"
  | .switch .dryRun => "dry-run"
  | .switch .help => "help"
  | .switch .version => "version"

def letter? : KnownOption → Option Char
  | .switch .verbose => some 'v'
  | .switch .help => some 'h'
  | .switch .version => some 'V'
  | _ => none

/-- What is shown behind the name: the value that is taken, or that the option may be repeated. -/
def operand : KnownOption → String
  | .switch .verbose => "..."
  | .valued .scriptDirectory => " <DIR>"
  | .valued .ingestProgram => " <PROGRAM>"
  | _ => ""

def long (o : KnownOption) : String := "--" ++ o.name

def usage (o : KnownOption) : String := o.long ++ o.operand

def description : KnownOption → String
  | .switch .verbose => "Enable verbose output (-v for debug, -vv for trace, -vvv for all)"
  | .valued .scriptDirectory =>
    "Directory holding the diff and copy scripts (default: this executable's directory)"
  | .valued .ingestProgram => "Ingestion executable to invoke"
  | .switch .dryRun => "Print the commands that would run, without running them"
  | .switch .help => "Print help"
  | .switch .version => "Print version"

end KnownOption

end IngestCheck.CommandLine
