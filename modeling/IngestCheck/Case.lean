namespace IngestCheck

structure Case where
  folderName : String
  inputPath : String
  connector : String
  embeddingProvider : String
  credentialVariable : String
  metadataExclude : List String
  deriving DecidableEq, Repr

namespace Case

def octoai : Case where
  folderName := "embed-octoai"
  inputPath := "example-docs/book-war-and-peace-1p.txt"
  connector := "local"
  embeddingProvider := "octoai"
  credentialVariable := "OCTOAI_API_KEY"
  metadataExclude := [
    "coordinates",
    "filename",
    "file_directory",
    "metadata.data_source.date_created",
    "metadata.data_source.date_modified",
    "metadata.data_source.date_processed",
    "metadata.last_modified",
    "metadata.detection_class_prob",
    "metadata.parent_id",
    "metadata.category_depth"]

def metadataExcludeArgument (c : Case) : String := ",".intercalate c.metadataExclude

end Case

end IngestCheck
