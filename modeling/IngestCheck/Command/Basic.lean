import IngestCheck.Bindings
import IngestCheck.Path

namespace IngestCheck

/-- A program to start, with the values that no message may show. -/
structure Command where
  program : Bytes
  arguments : List Bytes := []
  bindings : Bindings := ∅
  directory : Option Path := none
  secrets : List Bytes := []
  deriving DecidableEq

namespace Command

inductive Piece where
  | argument (word : Bytes)
  | arguments (words : List Bytes)
  | flag (name : String) (value : Bytes)
  | secretFlag (name : String) (value : Bytes)
  | binding (name : String) (value : Bytes)
  | directory (dir : Path)
  deriving DecidableEq, Repr

def Piece.words : Piece → List Bytes
  | .argument word => [word]
  | .arguments words => words
  | .flag name value | .secretFlag name value => [name, value]
  | .binding .. | .directory _ => []

def add (c : Command) (piece : Piece) : Command :=
  let c := { c with arguments := c.arguments ++ piece.words }
  match piece with
  | .secretFlag _ value => { c with secrets := c.secrets ++ [value] }
  | .binding name value => { c with bindings := c.bindings.insert name value }
  | .directory dir => { c with directory := some dir }
  | _ => c

def build (program : Bytes) (pieces : List Piece) : Command :=
  pieces.foldl add { program }

def words (c : Command) : List Bytes := c.program :: c.arguments

end Command

end IngestCheck
