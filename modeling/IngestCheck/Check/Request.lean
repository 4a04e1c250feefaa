import IngestCheck.Command.Basic
import IngestCheck.Failure
import IngestCheck.Log
import IngestCheck.Script
import IngestCheck.Status

namespace IngestCheck

abbrev Answer := Except CommandError ExitStatus

inductive Stream where
  | output
  | errors
  deriving DecidableEq, Repr

namespace Check

inductive Request where
  | log (event : Event)
  | print (stream : Stream) (text : String)
  | run (command : Command)
  | present (path : Path)
  | remove (path : Path)
  deriving DecidableEq

abbrev Request.Reply : Request → Type
  | log _ | print _ _ => Unit
  | run _ => Answer
  | present _ => Bool
  | remove _ => Except HostError Unit

abbrev Routine := Script Request Request.Reply

def log (level : Level) (source : Source) (message : String) : Routine Unit :=
  Script.request (Request.log ⟨level, source, message⟩)

def print (stream : Stream) (text : String) : Routine Unit :=
  Script.request (Request.print stream text)

def runCommand (command : Command) : Routine Answer := Script.request (Request.run command)

def present (path : Path) : Routine Bool := Script.request (Request.present path)

def remove (path : Path) : Routine (Except HostError Unit) := Script.request (Request.remove path)

end Check

end IngestCheck
