import IngestCheck.Host.Process
import IngestCheck.Host.Shell.Reader
import IngestCheck.Text.Number

namespace IngestCheck.Host.Shell

/-- A variable without a value may still be known for its marks. -/
structure Variable where
  value : Option Bytes := none
  exported : Bool := false
  fixed : Bool := false

/-- What is kept of a command that was started beside the shell. One that has rested goes on until
somebody waits for it. -/
structure Job where
  slot : Nat
  number : Nat
  status : Nat
  signal : Option Nat := none
  goesOn : Bool := false
  waited : Bool := false

structure State where
  process : Process
  root : Nat
  name : Bytes
  arguments : List Bytes := []
  store : List (Bytes × Variable) := []
  functions : List (Bytes × Tree) := []
  options : List Char := []
  traps : List (Nat × Bytes) := []
  /-- Signals ignored from the start, which no trap can change. -/
  deaf : List Nat := []
  pending : List Nat := []
  status : Nat := 0
  substituted : Nat := 0
  /-- The status that the shell will end with, while it ends or runs a trap. -/
  final : Option Nat := none
  lastDetached : Option Nat := none
  loops : Nat := 0
  messageLine : Nat := 0
  readingLine : Nat := 0
  speaker : Option Bytes := none
  /-- Variables to restore, for each function or command that has its own. -/
  frames : List (List (Bytes × Option Variable)) := []
  documents : List (Nat × Word) := []
  nextDocument : Nat := 0
  directoryName : Bytes := []
  /-- How far the reading of options has come: the next word, and the next letter of the one
before it. -/
  optionIndex : Nat := 1
  optionOffset : Option Nat := none
  tracing : Bool := false
  unwritten : Bool := false
  jobs : List Job := []
  aliases : List (Bytes × Bytes) := []
  tracked : List (Bytes × Path) := []

/-- Leaving the usual path. Leaving loops and starting them afresh count loops. -/
inductive Jump where
  | exit
  | error
  | gone
  | halt (h : Halt)
  | leave (loops : Nat)
  | again (loops : Nat)
  | comeBack
  deriving DecidableEq

abbrev Run := ExceptT Jump (StateM State)

def lift {α : Type} (act : Act α) : Run α := do
  let s ← get
  let (result, process) := act.run.run s.process
  set { s with process }
  match result with
  | .ok a => return a
  | .error h => throw (.halt h)

def attempt {α : Type} (act : Run α) : Run (Except Jump α) := do
  let (result, s) := act.run.run (← get)
  set s
  return result

/-- Repeat a step while it says so. What never ends leaves the process waiting for ever. -/
def iterate (step : Run Bool) : Nat → Run Unit
  | 0 => throw (.halt .paused)
  | n + 1 => do
    if ← step then iterate step n

namespace State

def has (s : State) (option : Char) : Bool := s.options.contains option

/-- Set or clear an option. Of the two ways to edit, one puts the other out. -/
def setOption (s : State) (option : Char) (on : Bool) : State :=
  let others := s.options.filter fun c ↦
    c ≠ option && !(on && (option = 'V' && c = 'E' || option = 'E' && c = 'V'))
  { s with options := if on then option :: others else others }

def stored? (s : State) (name : Bytes) : Option Variable := s.store.lookup name

def value? (s : State) (name : Bytes) : Option Bytes := (s.stored? name).bind (·.value)

def putVariable (s : State) (name : Bytes) (v : Variable) : State :=
  if (s.stored? name).isSome then
    { s with store := s.store.map fun x ↦ if x.1 = name then (name, v) else x }
  else { s with store := s.store ++ [(name, v)] }

def dropVariable (s : State) (name : Bytes) : State :=
  { s with store := s.store.filter (·.1 ≠ name) }

def defaultSeparators : Bytes := " \t\n"

def separators (s : State) : Bytes := (s.value? "IFS").getD defaultSeparators

/-- The drawer of the table that a variable is kept in, which gives the order in which programs
get the variables. -/
def drawer (name : Bytes) : Nat :=
  ((name.headD 0).toNat * 16 + name.foldl (fun n b ↦ n + b.toNat) 0) % 39

def environment (s : State) : List Bytes :=
  let given := s.store.filterMap fun x ↦
    if x.2.exported then x.2.value.map fun value ↦ (x.1, value) else none
  let ordered := given.mergeSort fun a b ↦ drawer a.1 ≤ drawer b.1
  ordered.map fun x ↦ x.1 ++ byteOf '=' :: x.2

def ignored (s : State) : List Nat :=
  s.process.ignored.filter (fun n ↦ (s.traps.lookup n).isNone) ++
    s.traps.filterMap fun t ↦ if t.2.isEmpty && t.1 ≠ 0 then some t.1 else none

def searchPath (s : State) : Bytes := (s.value? "PATH").getD []

def standardPath : Bytes := "/usr/local/sbin:/usr/local/bin:/usr/sbin:/usr/bin:/sbin:/bin"

end State

def warn (text : Bytes) : Run Unit := do
  let s ← get
  let place : Bytes := s.name ++ Bytes.ofString s!": {s.messageLine}: "
  let speaker : Bytes := match s.speaker with
    | some c => c ++ Bytes.ofString ": "
    | none => []
  lift (writeBytes 2 (place ++ speaker ++ text ++ [0x0A]))

def fail {α : Type} (text : Bytes) : Run α := do
  warn text
  modify fun s ↦ { s with status := 2 }
  throw .error

def describe (e : HostError) : String :=
  match e with
  | .os n => HostError.describe n
  | e => e.message

/-- What the shell says of a refusal; it has its own words for what is not there. -/
def refusal (e : HostError) (missing : String) : String :=
  match e with
  | .os 2 | .os 20 => missing
  | e => describe e

/-- Set a variable, keeping its marks. Its name ends at an equals sign. -/
def assign (name value : Bytes) : Run Unit := do
  let name := name.takeWhile (· ≠ byteOf '=')
  let s ← get
  if !isName name then fail (name ++ ": bad variable name")
  let old := (s.stored? name).getD {}
  if old.fixed then fail (name ++ ": is read only")
  let exported := old.exported || s.has 'a'
  set (s.putVariable name { old with value := some value, exported })
  if name = ("PATH" : Bytes) then modify fun s ↦ { s with tracked := [] }
  if name = ("OPTIND" : Bytes) then
    let index := ((Number.whole? 10 value).getD 0).toNat
    modify fun s ↦ { s with optionIndex := if index = 0 then 1 else index, optionOffset := none }

def exportVariable (name : Bytes) : Run Unit :=
  modify fun s ↦ s.putVariable name { (s.stored? name).getD {} with exported := true }

def remember (name : Bytes) : Run Unit :=
  modify fun s ↦ match s.frames with
    | frame :: rest =>
      if (frame.lookup name).isSome then s
      else { s with frames := ((name, s.stored? name) :: frame) :: rest }
    | [] => s

def unwind (count : Nat) : Run Unit :=
  modify fun s ↦
    let ended := s.frames.take (s.frames.length - count)
    let s := ended.foldl (fun s frame ↦ frame.foldl (fun s entry ↦ match entry.2 with
      | some v => s.putVariable entry.1 v
      | none => s.dropVariable entry.1) s) s
    { s with frames := s.frames.drop ended.length }

def setStatus (status : Nat) : Run Unit := modify fun s ↦ { s with status }

def arrive (line : Nat) : Run Unit := modify fun s ↦ { s with messageLine := line }

/-- Write to the standard output, or remember that it could not be done. -/
def emit (bytes : Bytes) : Run Unit :=
  modify fun s ↦ match s.process.write 1 bytes with
    | .ok process => { s with process }
    | .error _ => { s with unwritten := s.unwritten || !bytes.isEmpty }

/-- A text in single quotes, in which single quotes stand in double ones. -/
def singleQuoted (text : Bytes) : Bytes :=
  let quote : UInt8 := byteOf '\''
  let rec go : Nat → Bytes → Bytes
    | 0, _ => []
    | fuel + 1, text =>
      let plain := text.takeWhile (· ≠ quote)
      let rest := text.drop plain.length
      let quotes := rest.takeWhile (· = quote)
      let rest := rest.drop quotes.length
      [quote] ++ plain ++ [quote] ++
        (if quotes.isEmpty then [] else [byteOf '"'] ++ quotes ++ [byteOf '"']) ++
        (if rest.isEmpty then [] else go fuel rest)
  go (text.length + 1) text

end IngestCheck.Host.Shell
