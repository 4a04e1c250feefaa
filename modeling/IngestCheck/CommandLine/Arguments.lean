import IngestCheck.CommandLine.Usage
import IngestCheck.Settings

namespace IngestCheck.CommandLine

structure Invocation where
  verbosity : Nat := 0
  overrides : Overrides := {}
  dryRun : Bool := false
  deriving DecidableEq, Repr

inductive Stop where
  | help
  | version
  | mistake (e : UsageError)
  deriving DecidableEq, Repr

/-- What has been read so far. An option whose value stands apart takes effect with the next
option or at the end. The options that took effect are in the order in which they last did. -/
structure Reading where
  invocation : Invocation := {}
  taken : List KnownOption := []
  pending : Option (ValueOption × Option Bytes) := none
  deriving DecidableEq, Repr

namespace Reading

/-- Take an option that is not to be given again, or forget it if it was. -/
def takeOnce (r : Reading) (o : KnownOption) : List KnownOption :=
  if r.taken.contains o then r.taken.erase o else r.taken ++ [o]

def give (r : Reading) (o : ValueOption) (value : Bytes) : Except Stop Reading :=
  let current := r.invocation.overrides
  let taken := r.takeOnce (.valued o)
  if r.taken.contains (.valued o) then .error (.mistake (.repeated (.valued o)))
  else match o with
    | .scriptDirectory =>
      if value.isEmpty then .error (.mistake (.missingValue o))
      else .ok { r with
        invocation.overrides := { current with scriptDirectory := some value }, taken }
    | .ingestProgram =>
      .ok { r with invocation.overrides := { current with ingestProgram := some value }, taken }

def settle (r : Reading) : Except Stop Reading :=
  match r.pending with
  | none => .ok r
  | some (o, none) => .error (.mistake (.missingValue o))
  | some (o, some value) => { r with pending := none }.give o value

def takenAtLast (r : Reading) : List KnownOption :=
  match r.pending with
  | some (o, some _) => r.takeOnce (.valued o)
  | _ => r.taken

def verbosityLimit : Nat := 255

def flip (r : Reading) (s : Switch) : Except Stop Reading := do
  let r ← r.settle
  let o := KnownOption.switch s
  match s with
  | .verbose =>
    return { r with
      invocation.verbosity := min (r.invocation.verbosity + 1) verbosityLimit
      taken := r.taken.erase o ++ [o] }
  | .dryRun =>
    if r.invocation.dryRun then throw (.mistake (.repeated o))
    else return { r with invocation.dryRun := true, taken := r.takeOnce o }
  | .help => throw .help
  | .version => throw .version

def long (r : Reading) (text : Bytes) : Except Stop Reading := do
  let name := text.takeWhile (· ≠ 0x3D)
  let value := (text.drop name.length).drop 1
  let attached := text.contains 0x3D
  match KnownOption.all.find? fun o ↦ Bytes.ofString o.name = name with
  | some (.switch s) =>
    if attached then throw (.mistake (.unexpectedValue (Bytes.shown value) (.switch s) r.taken))
    else r.flip s
  | some (.valued o) =>
    let r ← r.settle
    if attached then r.give o value else return { r with pending := some (o, none) }
  | none => throw (.mistake (.unknownOption (Bytes.shown name) r.takenAtLast))

def short (r : Reading) : List Utf8.Piece → Except Stop Reading
  | [] => .ok r
  | .char c :: rest => do
    match KnownOption.all.find? (·.letter? = some c) with
    | some (.switch s) => short (← r.flip s) rest
    | _ => throw (.mistake (.unexpectedArgument s!"-{c}"))
  | rest =>
    .error (.mistake (.unexpectedArgument ("-" ++ String.ofList (rest.map Utf8.Piece.shown))))

def word (r : Reading) (w : Bytes) : Except Stop Reading :=
  match r.pending with
  | some (o, none) => .ok { r with pending := some (o, some w) }
  | _ => .error (.mistake (.unexpectedArgument (Bytes.shown w)))

/-- Take all arguments. Nothing may follow a double dash. -/
def takeAll (r : Reading) : List Bytes → Except Stop Reading
  | [] => r.settle
  | [0x2D, 0x2D] :: rest =>
    match rest with
    | [] => r.settle
    | w :: _ => .error (.mistake (.unexpectedArgument (Bytes.shown w)))
  | (0x2D :: 0x2D :: text) :: rest => do (← r.long text).takeAll rest
  | (0x2D :: b :: text) :: rest => do (← r.short (Utf8.pieces (b :: text))).takeAll rest
  | w :: rest => do (← r.word w).takeAll rest

end Reading

def read (arguments : List Bytes) : Except Stop Invocation :=
  (Reading.takeAll {} arguments).map (·.invocation)

end IngestCheck.CommandLine
