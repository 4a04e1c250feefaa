import IngestCheck.Command.Display
import IngestCheck.Settings

namespace IngestCheck

structure Plan where
  ingest : Command
  diff : Command
  copy : Command
  deriving DecidableEq

namespace Plan

def ingestCommand (s : Settings) (key : Bytes) : Command :=
  .build s.ingestProgram [
    .argument s.case.connector,
    .flag "--num-processes" s.maxProcesses,
    .flag "--metadata-exclude" s.case.metadataExcludeArgument,
    .flag "--output-dir" s.outputDirectory,
    .argument "--verbose",
    .argument "--reprocess",
    .flag "--input-path" s.case.inputPath,
    .flag "--work-dir" s.workDirectory,
    .flag "--embedding-provider" s.case.embeddingProvider,
    .secretFlag "--embedding-api-key" key,
    .binding Settings.pythonPathVariable s.pythonPath,
    .directory s.repositoryRoot]

def diffCommand (s : Settings) : Command :=
  .build s.diffScript [.argument s.case.folderName, .directory s.repositoryRoot]

def copyCommand (s : Settings) : Command :=
  .build s.copyScript
    [.argument s.outputDirectory, .argument s.case.folderName, .directory s.repositoryRoot]

def ofSettings (s : Settings) (key : Bytes) : Plan where
  ingest := ingestCommand s key
  diff := diffCommand s
  copy := copyCommand s

def steps (p : Plan) : List (Stage × Command) :=
  [(.ingest, p.ingest), (.diff, p.diff), (.copy, p.copy)]

def announce (p : Plan) : String :=
  String.join (p.steps.map fun step ↦ s!"# {step.1.name}\n{step.2.displayLine}\n")

end Plan

end IngestCheck
