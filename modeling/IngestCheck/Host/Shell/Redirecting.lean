import IngestCheck.Host.Shell.Expansion

namespace IngestCheck.Host.Shell

inductive Destination where
  | file (opening : Opening) (path : Path)
  | copy (source : Option Nat)
  | document (expands : Bool) (number : Nat)

def descriptorNamed (text : Bytes) : Run (Option Nat) := do
  match text.characters with
  | ['-'] => return none
  | [c] => if c.isDigit then return some (c.toNat - 48)
  | _ => pure ()
  modify fun s ↦ { s with messageLine := s.readingLine }
  fail "Syntax error: Bad fd number"

def destinations (substitute : Tree → Run Bytes) (redirections : List Redirection) :
    Run (List (Nat × Destination)) :=
  redirections.mapM fun r ↦ do
    match r with
    | .file descriptor opening name =>
      return (descriptor, .file opening (← expandText substitute Mode.plain name))
    | .copy descriptor source => return (descriptor, .copy source)
    | .copyNamed descriptor source =>
      let text ← expandText substitute Mode.plain source
      return (descriptor, .copy (← descriptorNamed text))
    | .document descriptor expands number => return (descriptor, .document expands number)

def openFile (opening : Opening) (path : Path) : Run Channel := do
  let s ← get
  let p := s.process
  let cannot (e : HostError) : Run Channel :=
    if opening = .read then
      fail ("cannot open " ++ path ++ ": " ++ Bytes.ofString (refusal e "No such file"))
    else
      fail ("cannot create " ++ path ++ ": " ++ Bytes.ofString (refusal e "Directory nonexistent"))
  let opened (p : Process) (place : Place) : Run Channel := do
    let (number, process) := p.addFile {
      place
      reads := opening = .read || opening = .readWrite
      writes := opening ≠ .read
      appends := opening = .append }
    set { s with process }
    return .file number
  /- An open file that a stream leads to is opened anew. -/
  let looked := if opening = .read then p.host.files.lookUp true p.directory path
    else p.host.files.lookUpToMake p.directory path
  let found : Except HostError (Place × Option Entry) := match looked with
    | .ok (place, some (.stream n)) => match p.channel? n with
      | some (.file k) => match p.host.opened[k]? with
        | some f => .ok (f.place, p.host.files.entry? f.place)
        | none => .error .noEntry
      | some _ => .ok (place, some (.stream n))
      | none => .error .noEntry
    | other => other
  match found with
  | .error e => cannot e
  | .ok (_, some .null) => return .null
  | .ok (_, some (.stream n)) => return (p.channel? n).getD .null
  | .ok (place, some .directory) => if opening = .read then opened p place else cannot .isDirectory
  | .ok (place, some (.tool _)) => if opening = .read then opened p place else cannot .textBusy
  | .ok (place, some (.file mode content)) =>
    if opening = .write && s.has 'C' then cannot .alreadyThere
    else
      let keeps := opening = .read || opening = .readWrite || opening = .append
      let kept : Bytes := if keeps then content else []
      opened (p.mapFiles (·.put place (.file mode kept))) place
  | .ok (place, some (.link _)) => opened p place
  | .ok (place, none) =>
    if opening = .read then cannot .noEntry
    else opened (p.mapFiles (·.put place (.file (0o666 &&& (0o777 ^^^ p.mask)) []))) place

def attach (descriptor : Nat) (channel : Option Channel) : Run Unit :=
  modify fun s ↦ { s with process := s.process.attach descriptor channel }

def redirect (substitute : Tree → Run Bytes) (descriptor : Nat) (d : Destination) : Run Unit := do
  match d with
  | .file opening path => attach descriptor (some (← openFile opening path))
  | .copy none => attach descriptor none
  | .copy (some source) =>
    if source ≠ descriptor then
      match (← get).process.channel? source with
      | some channel => attach descriptor (some channel)
      | none => fail s!"{source}: {describe .badDescriptor}"
  | .document expands number =>
    let word := ((← get).documents.lookup number).getD []
    let text ← if expands then expandText substitute Mode.document word
      else expandText substitute {} word
    let s ← get
    let (pipe, process) := s.process.addPipe text
    set { s with process }
    attach descriptor (some (.pipe pipe))

def redirectAll (substitute : Tree → Run Bytes) (ds : List (Nat × Destination)) : Run Unit :=
  ds.forM fun d ↦ redirect substitute d.1 d.2

def redirectSafely (substitute : Tree → Run Bytes) (ds : List (Nat × Destination)) : Run Nat := do
  match ← attempt (redirectAll substitute ds) with
  | .ok () => return 0
  | .error .error => return 2
  | .error jump => throw jump

def restoreDescriptors (descriptors : List (Nat × Channel)) : Run Unit :=
  modify fun s ↦ { s with process := { s.process with descriptors } }

end IngestCheck.Host.Shell
