import IngestCheck.Plan

namespace IngestCheck.Plan

structure Given where
  option : Bytes
  value? : Option Bytes := none
  deriving DecidableEq, Repr

def switches : List Bytes := ["--verbose", "--reprocess"]

def options : List Bytes → List Given
  | [] => []
  | [option] => [⟨option, none⟩]
  | option :: value :: rest =>
    if option ∈ switches then ⟨option, none⟩ :: options (value :: rest)
    else ⟨option, value⟩ :: options rest

def valueOf? (option : Bytes) (words : List Bytes) : Option Bytes :=
  ((options words).find? (·.option = option)).bind Given.value?

/-- What the tool reads off the ingest command behind the connector, whatever the values are. -/
theorem options_ingestCommand (s : Settings) (key : Bytes) :
    options (ingestCommand s key).arguments.tail =
      [⟨"--num-processes", s.maxProcesses⟩,
        ⟨"--metadata-exclude", some s.case.metadataExcludeArgument⟩,
        ⟨"--output-dir", s.outputDirectory⟩,
        ⟨"--verbose", none⟩,
        ⟨"--reprocess", none⟩,
        ⟨"--input-path", some s.case.inputPath⟩,
        ⟨"--work-dir", s.workDirectory⟩,
        ⟨"--embedding-provider", some s.case.embeddingProvider⟩,
        ⟨"--embedding-api-key", key⟩] := rfl

theorem outputDirectory_ingestCommand (s : Settings) (key : Bytes) :
    valueOf? "--output-dir" (ingestCommand s key).arguments.tail = s.outputDirectory := by
  rw [valueOf?, options_ingestCommand]
  rfl

theorem workDirectory_ingestCommand (s : Settings) (key : Bytes) :
    valueOf? "--work-dir" (ingestCommand s key).arguments.tail = s.workDirectory := by
  rw [valueOf?, options_ingestCommand]
  rfl

end IngestCheck.Plan
