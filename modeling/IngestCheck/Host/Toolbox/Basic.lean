import IngestCheck.Host.Process
import IngestCheck.Host.Toolbox.Quoting

namespace IngestCheck.Host.Toolbox

def describe (e : HostError) : Bytes :=
  match e with
  | .os n => HostError.describe n
  | e => e.message

def fault (name text : Bytes) : Act Nat := do
  writeBytes 2 (name ++ ": " ++ text ++ "\n")
  return 1

def misuse (name : Bytes) (status : Nat) (text : Bytes) : Act Nat := do
  let _ ← fault name text
  writeBytes 2 ("Try '" ++ name ++ " --help' for more information.\n")
  return status

def print (name bytes : Bytes) : Act Nat := do
  if bytes.isEmpty then return 0
  let p ← get
  match p.write 1 bytes with
  | .ok p =>
    set p
    return 0
  | .error e => fault name ("write error: " ++ describe e)

/-- The options of a tool: its letters, each with whether an argument follows, and longer names of
some. Options may stand after operands unless the tool runs what its operands say. -/
structure Options where
  letters : List (Char × Bool) := []
  names : List (String × Char) := []
  anywhere : Bool := true
  status : Nat := 1

structure Given where
  options : List (Char × Bytes) := []
  operands : List Bytes := []

namespace Given

def has (g : Given) (letter : Char) : Bool := g.options.any (·.1 = letter)

def argument? (g : Given) (letter : Char) : Option Bytes :=
  (g.options.reverse.find? (·.1 = letter)).map (·.2)

end Given

def Options.letter (o : Options) : List Char → List Bytes →
    Except String (List (Char × Bytes) × List Bytes)
  | [], rest => .ok ([], rest)
  | c :: cs, rest =>
    match o.letters.lookup c, cs, rest with
    | none, _, _ => .error s!"invalid option -- '{c}'"
    | some true, [], [] => .error s!"option requires an argument -- '{c}'"
    | some true, [], a :: rest => .ok ([(c, a)], rest)
    | some true, cs, rest => .ok ([(c, Bytes.ofCharacters cs)], rest)
    | some false, cs, rest => do
      let (more, rest) ← o.letter cs rest
      return ((c, []) :: more, rest)

/-- An option by its name, or by a start of it that fits no other. -/
def Options.named (o : Options) (text : List Char) (rest : List Bytes) :
    Except String (List (Char × Bytes) × List Bytes) :=
  let name := text.takeWhile (· ≠ '=')
  let value := text.drop (name.length + 1)
  let shown := String.ofList name
  let exact := o.names.filter fun n ↦ n.1.toList = name
  let found := if exact.isEmpty then o.names.filter fun n ↦ name.isPrefixOf n.1.toList else exact
  let hasValue := decide (name.length < text.length)
  match found with
  | [(full, c)] =>
    if (o.letters.lookup c).getD false then
      if hasValue then .ok ([(c, Bytes.ofCharacters value)], rest)
      else match rest with
        | a :: rest => .ok ([(c, a)], rest)
        | [] => .error s!"option '--{full}' requires an argument"
    else if hasValue then .error s!"option '--{full}' doesn't allow an argument"
    else .ok ([(c, [])], rest)
  | _ => .error s!"unrecognized option '--{shown}'"

def Options.read (o : Options) : Nat → List Bytes → Except String Given
  | 0, words => .ok { operands := words }
  | _, [] => .ok {}
  | fuel + 1, word :: rest => do
    match word.characters with
    | ['-', '-'] => return { operands := rest }
    | '-' :: '-' :: name =>
      let (found, rest) ← o.named name rest
      let more ← o.read fuel rest
      return { more with options := found ++ more.options }
    | '-' :: c :: cs =>
      let (found, rest) ← o.letter (c :: cs) rest
      let more ← o.read fuel rest
      return { more with options := found ++ more.options }
    | _ =>
      if !o.anywhere then return { operands := word :: rest }
      let more ← o.read fuel rest
      return { more with operands := word :: more.operands }

def given (o : Options) (words : List Bytes) (act : Bytes → Given → Act Nat) : Act Nat := do
  let name := words.headD []
  match o.read words.length (words.drop 1) with
  | .ok g => act name g
  | .error text => misuse name o.status text

def flags (letters : String) (names : List (String × Char)) : Options :=
  { letters := letters.toList.map fun c ↦ (c, false), names }

/-- Do something with each of some operands; the worst status counts. -/
def each (operands : List Bytes) (act : Bytes → Act Nat) : Act Nat :=
  operands.foldlM (fun status a ↦ return max status (← act a)) 0

def changeFiles (change : FileTree → Place → Except HostError FileTree) :
    Act (Except HostError Unit) := do
  let p ← get
  match change p.host.files p.directory with
  | .ok files =>
    set { p with host := { p.host with files } }
    return .ok ()
  | .error e => return .error e

def changeOrFault (name text : Bytes)
    (change : FileTree → Place → Except HostError FileTree) : Act Nat := do
  match ← changeFiles change with
  | .ok () => return 0
  | .error e => fault name (text ++ ": " ++ describe e)

def found (follow : Bool) (path : Path) : Act (Except HostError (Place × Entry)) := do
  let p ← get
  return p.host.files.find follow p.directory path

def bare (path : Path) : Path :=
  let stripped := Path.bare path
  if stripped.isEmpty && !path.isEmpty then [Path.slash] else stripped

def within (directory name : Path) : Path :=
  if name.isEmpty then bare directory else Path.join (bare directory) name

/-- The bytes of a file, or of the standard input for a dash. What a stream has is used up. -/
def contents (path : Path) : Act (Except HostError Bytes) := do
  if path = ("-" : Bytes) then readAll 0
  else
    let p ← get
    match p.host.files.find true p.directory path with
    | .ok (_, .stream n) => readAll n
    | _ => return p.host.files.contents p.directory path

end IngestCheck.Host.Toolbox
