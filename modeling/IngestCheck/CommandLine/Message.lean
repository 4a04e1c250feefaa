import IngestCheck.Text.Terminal

namespace IngestCheck.CommandLine

inductive Emphasis where
  | none
  | heading
  | failure
  | invalid
  | valid
  | literal
  deriving DecidableEq, Repr

def Emphasis.styles : Emphasis → List Nat
  | .none => []
  | .heading => [1, 4]
  | .failure => [1, 31]
  | .invalid => [33]
  | .valid => [32]
  | .literal => [1]

structure Span where
  emphasis : Emphasis := .none
  text : String
  deriving DecidableEq, Repr

def Span.render (s : Span) (colored : Bool) : String :=
  if colored then
    let styles := s.emphasis.styles.map fun style ↦ s!"\x1b[{style}m"
    String.join styles ++ s.text ++ if styles.isEmpty then "" else "\x1b[0m"
  else Terminal.strip s.text

abbrev Message := List Span

namespace Message

def render (m : Message) (colored : Bool) : String := String.join (m.map (·.render colored))

def plain (text : String) : Message := [{ text }]

def heading (text : String) : Message := [{ emphasis := .heading, text }]

def failure (text : String) : Message := [{ emphasis := .failure, text }]

def invalid (text : String) : Message := [{ emphasis := .invalid, text }]

def valid (text : String) : Message := [{ emphasis := .valid, text }]

def literal (text : String) : Message := [{ emphasis := .literal, text }]

end Message

/-- Whether messages are colored. The environment may forbid it, and otherwise it may ask for it;
an empty entry does neither. -/
def colorsUnder (forbidden asked : Option Bytes) : Bool :=
  let given (entry : Option Bytes) : Bool := entry.any (!·.isEmpty)
  !given forbidden && given asked

end IngestCheck.CommandLine
