import IngestCheck.Command.Basic
import IngestCheck.Text.Mask
import IngestCheck.Text.ShellWord

namespace IngestCheck.Command

def masked (c : Command) : List (List Char) :=
  (c.secrets.filter (!·.isEmpty)).map Utf8.lossy

def redact (c : Command) (word : Bytes) : List Char := Mask.all c.masked (Utf8.lossy word)

def displayLine (c : Command) : String :=
  String.ofList (ShellWord.join (c.words.map c.redact))

def programName (c : Command) : String := Bytes.shown c.program

end IngestCheck.Command
