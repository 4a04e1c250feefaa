import IngestCheck.Host.Basic
import IngestCheck.Host.Signal

namespace IngestCheck.Host

/-- What a descriptor leads to. A file and a pipe are known by their position among those that the
host keeps. -/
inductive Channel where
  | input
  | output
  | errors
  | file (number : Nat)
  | pipe (number : Nat)
  | null
  deriving DecidableEq, Repr

structure Process where
  host : Host
  number : Nat
  directory : Place
  descriptors : List (Nat × Channel) := [(0, .input), (1, .output), (2, .errors)]
  environment : List Bytes := []
  ignored : List Nat := []
  mask : Nat := 0o022
  waiting : List Nat := []
  detached : Bool := false

inductive Halt where
  | killed (signal : Nat)
  | paused
  deriving DecidableEq, Repr

abbrev Act := ExceptT Halt (StateM Process)

namespace Process

def channel? (p : Process) (descriptor : Nat) : Option Channel := p.descriptors.lookup descriptor

def attach (p : Process) (descriptor : Nat) (channel : Option Channel) : Process :=
  let others := p.descriptors.filter (·.1 ≠ descriptor)
  match channel with
  | some c => { p with descriptors := (descriptor, c) :: others }
  | none => { p with descriptors := others }

def mapFiles (p : Process) (f : FileTree → FileTree) : Process :=
  { p with host := { p.host with files := f p.host.files } }

def addPipe (p : Process) (content : Bytes) : Nat × Process :=
  (p.host.pipes.size, { p with host := { p.host with pipes := p.host.pipes.push content } })

def addFile (p : Process) (f : OpenFile) : Nat × Process :=
  (p.host.opened.size, { p with host := { p.host with opened := p.host.opened.push f } })

def fileContent (p : Process) (place : Place) : Bytes :=
  match p.host.files.entry? place with
  | some (.file _ content) => content
  | _ => []

def writeFile (p : Process) (number : Nat) (bytes : Bytes) : Process :=
  match p.host.opened[number]? with
  | some f =>
    let position := if f.appends then (p.fileContent f.place).length else f.position
    let p := p.mapFiles (·.writeAt f.place position bytes)
    let moved := { f with position := position + bytes.length }
    { p with host := { p.host with opened := p.host.opened.setIfInBounds number moved } }
  | none => p

def writeTo (p : Process) (channel : Channel) (bytes : Bytes) : Except HostError Process :=
  match channel with
  | .output => .ok { p with host := { p.host with output := p.host.output ++ bytes } }
  | .errors => .ok { p with host := { p.host with errors := p.host.errors ++ bytes } }
  | .null => .ok p
  | .input => .error .badDescriptor
  | .pipe n =>
    let pipes := p.host.pipes.modify n (· ++ bytes)
    .ok { p with host := { p.host with pipes } }
  | .file n =>
    if (p.host.opened[n]?).any (·.writes) then .ok (p.writeFile n bytes)
    else .error .badDescriptor

def write (p : Process) (descriptor : Nat) (bytes : Bytes) : Except HostError Process :=
  match p.channel? descriptor with
  | some c => p.writeTo c bytes
  | none => .error .badDescriptor

def unread (p : Process) (descriptor : Nat) : Except HostError Bytes :=
  match p.channel? descriptor with
  | some .input => .ok p.host.input
  | some (.pipe n) => .ok (p.host.pipes.getD n [])
  | some (.file n) => match p.host.opened[n]? with
    | some f =>
      if !f.reads then .error .badDescriptor
      else if p.host.files.entry? f.place = some .directory then .error .isDirectory
      else .ok ((p.fileContent f.place).drop f.position)
    | none => .ok []
  | some .null => .ok []
  | some .output | some .errors => .ok []
  | none => .error .badDescriptor

def skip (p : Process) (descriptor count : Nat) : Process :=
  match p.channel? descriptor with
  | some .input => { p with host := { p.host with input := p.host.input.drop count } }
  | some (.pipe n) =>
    { p with host := { p.host with pipes := p.host.pipes.modify n (·.drop count) } }
  | some (.file n) =>
    let opened := p.host.opened.modify n fun f ↦ { f with position := f.position + count }
    { p with host := { p.host with opened } }
  | _ => p

def value? (p : Process) (name : Bytes) : Option Bytes :=
  p.environment.findSome? fun entry ↦
    if (name ++ [0x3D]).isPrefixOf entry then some (entry.drop (name.length + 1)) else none

end Process

def writeBytes (descriptor : Nat) (bytes : Bytes) : Act Unit :=
  modify fun p ↦ (p.write descriptor bytes).toOption.getD p

def readAll (descriptor : Nat) : Act (Except HostError Bytes) := do
  let p ← get
  match p.unread descriptor with
  | .ok bytes =>
    set (p.skip descriptor bytes.length)
    return .ok bytes
  | .error e => return .error e

/-- Wait. If somebody is there to interrupt the wait it does not end; a detached program only
leaves word that it has waited. -/
def rest : Act Unit := do
  let p ← get
  if p.detached then set { p with host := { p.host with rested := true } }
  else if p.host.interrupts then throw .paused

def strike (signal : Nat) : Act Unit := do
  if (← get).ignored.contains signal && !isUnstoppable signal then return ()
  match effect signal with
  | .death => throw (.killed signal)
  | .stop => throw .paused
  | .nothing => return ()

/-- Send a signal. Only the program itself and those that wait for it can be reached. -/
def sendSignal (signal : Nat) (target : Int) : Act (Except HostError Unit) := do
  let p ← get
  if target = p.number || target ≤ 0 then
    strike signal
    return .ok ()
  else if p.waiting.contains target.toNat then
    set { p with host := { p.host with sent := p.host.sent ++ [(target.toNat, signal)] } }
    return .ok ()
  else return .error .noProcess

end IngestCheck.Host
