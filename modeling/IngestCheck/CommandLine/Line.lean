import IngestCheck.Log
import IngestCheck.Text.Terminal

namespace IngestCheck.CommandLine

structure LineStyle where
  targets : Bool := false
  painted : Bool := false
  deriving DecidableEq, Repr

namespace LineStyle

/-- Whether lines are painted: an entry in the environment that is not empty forbids it. -/
def paintsUnder (setting : Option Bytes) : Bool :=
  match setting.bind Utf8.decode? with
  | some text => text.isEmpty
  | none => true

def paint (style : Nat) (text : String) : String := s!"\x1b[{style}m{text}\x1b[0m"

def faint : Nat := 2

def color : Level → Nat
  | .error => 31
  | .warn => 33
  | .info => 32
  | .debug => 34
  | .trace => 35

def styled (s : LineStyle) (style : Nat) (text : String) : String :=
  if s.painted then paint style text else text

def label (l : Level) : String :=
  String.ofList (List.replicate (5 - l.name.length) ' ') ++ l.name

/-- An event as a line of the log. Nothing in its message steers a terminal. -/
def line (s : LineStyle) (time : String) (e : Event) : String :=
  let target := if s.targets
    then s.styled faint e.source.target ++ s.styled faint ":" ++ " " else ""
  s.styled faint time ++ " " ++ s.styled (color e.level) (label e.level) ++ " " ++ target ++
    Terminal.defuse e.message ++ "\n"

end LineStyle

end IngestCheck.CommandLine
