import IngestCheck.Host.Toolbox.Files
import IngestCheck.Host.Toolbox.Surroundings
import IngestCheck.Host.Toolbox.ByteSet
import IngestCheck.Host.Toolbox.Sequence
import IngestCheck.Host.Toolbox.Texts
import IngestCheck.Host.Toolbox.Transfer
import IngestCheck.Host.Toolbox.Words

namespace IngestCheck.Host.Toolbox

def use (tool : Tool) (words : List Bytes) : Act Nat :=
  match tool with
  | .basename => basename words
  | .cat => cat words
  | .chmod => changeMode words
  | .copy => copy words
  | .dirname => dirname words
  | .echo => echo words
  | .false_ => return 1
  | .head => head words
  | .link => link words
  | .list => list words
  | .makeDirectory => makeDirectories words
  | .move => move words
  | .printDirectory => printDirectory words
  | .printVariables => printVariables words
  | .printf => printf words
  | .readLink => readLink words
  | .remove => remove words
  | .removeDirectory => removeDirectories words
  | .sequence => sequence words
  | .sleep => sleep words
  | .sort => sort words
  | .tail => tail words
  | .tee => tee words
  | .test => test words
  | .touch => touch words
  | .exchange => exchange words
  | .wordCount => wordCount words
  | .true_ | .env | .shell => return 0

end IngestCheck.Host.Toolbox
