import IngestCheck.Host.Shell.Builtin
import IngestCheck.Host.Shell.Redirecting

namespace IngestCheck.Host.Shell

structure Call where
  /-- All fields so far, and the position of the name among them. -/
  fields : List Bytes := []
  start : Nat := 0
  rest : List Word := []
  special : Bool := false
  bare : Bool := false
  standard : Bool := false

namespace Call

def name? (c : Call) : Option Bytes := c.fields[c.start]?

def words (c : Call) : List Bytes := c.fields.drop c.start

def reach (substitute : Tree → Run Bytes) (position : Nat) (c : Call) : Run Call := do
  if position < c.fields.length then return c
  let (fields, rest) ← firstFields substitute c.rest
  return { c with fields := c.fields ++ fields, rest }

/-- Look through the options from a position on. Without a position in the answer, the command
that has the options is called itself. -/
def options (substitute : Tree → Run Bytes) :
    Nat → Nat → Bool → Call → Run (Call × Option (Nat × Bool))
  | 0, _, _, c => return (c, none)
  | fuel + 1, position, standard, c => do
    let c ← c.reach substitute position
    match c.fields[position]? with
    | none => return (c, none)
    | some word =>
      match word.characters with
      | '-' :: letter :: letters =>
        if letter = '-' ∧ letters.isEmpty then
          let c ← c.reach substitute (position + 1)
          let isThere := decide (position + 1 < c.fields.length)
          return (c, if isThere then some (position + 1, standard) else none)
        else if (letter :: letters).all (· = 'p') then
          options substitute fuel (position + 1) true c
        else return (c, none)
      | _ => return (c, some (position, standard))

def settle (substitute : Tree → Run Bytes) : Nat → Bool → Call → Run Call
  | 0, _, c => return c
  | fuel + 1, isFirst, c => do
    match c.name? with
    | none => return c
    | some name =>
      let isFunction := !c.bare && ((← get).functions.lookup name).isSome
      if name.contains Path.slash || isFunction || !isBuiltin name then return c
      let c := if isFirst then { c with special := Read.specialCommands.contains name } else c
      if name ≠ ("command" : Bytes) then return c
      match ← c.options substitute (8 * c.rest.length + 64) (c.start + 1) c.standard with
      | (c, none) => return c
      | (c, some (start, standard)) =>
        settle substitute fuel false { c with start, standard, bare := true }

def assigns (name : Bytes) : Bool :=
  (["alias", "export", "local", "readonly"] : List String).any (Bytes.ofString · = name)

def ofWords (substitute : Tree → Run Bytes) (words : List Word) : Run Call := do
  let (fields, rest) ← firstFields substitute words
  let c ← settle substitute (words.length + 64) true { fields, rest }
  let isAssigning := match c.name? with
    | some name => isBuiltin name && assigns name
    | none => false
  let more ← c.rest.mapM fun word ↦ do
    if isAssigning && word.isAssignment then
      return [← expandText substitute Mode.assignment word]
    else expandFields substitute word
  return { c with fields := c.fields ++ more.flatten, rest := [] }

end Call

inductive Target where
  | nothing
  | function (body : Tree)
  | builtin (name : Bytes)
  | program (path : Option Path)
  | missing (e : HostError)

def State.target (s : State) (c : Call) (path : Bytes) : Target :=
  match c.name? with
  | none => .nothing
  | some name =>
    if name.contains Path.slash then .program none
    else match if c.bare then none else s.functions.lookup name with
      | some body => .function body
      | none =>
        if isBuiltin name then .builtin name
        else match s.find path name with
          | .ok path => .program (some path)
          | .error e => .missing e

def State.image (s : State) (path : Bytes) (words : List Bytes) : Except HostError Image :=
  let startAt (p : Path) : Except HostError Image :=
    s.process.host.files.startOrRead s.process.directory s.environment p words
  let name := words.headD []
  if name.contains Path.slash then startAt name
  else
    let step (found : Except HostError Image) (dir : Bytes) : Except HostError Image :=
      match found with
      | .ok image => .ok image
      | .error e =>
        match startAt (FileTree.inDirectory dir name) with
        | .error (.os 2) | .error (.os 20) => .error e
        | result => result
    (FileTree.splitColon path).foldl step (.error .noEntry)

end IngestCheck.Host.Shell
