import IngestCheck.Host.Shell.Call
import IngestCheck.Host.Toolbox

namespace IngestCheck.Host.Shell

structure Way where
  tested : Bool := false
  last : Bool := false

def exhausted {α : Type} : Run α := throw (.halt (.killed 11))

/-- The most rounds that a loop makes before it counts as endless. -/
def roundLimit : Nat := 200000

def State.child (s : State) (detached : Bool) : State :=
  let host := s.process.host
  let process := { s.process with
    host := { host with nextNumber := host.nextNumber + 1 }
    number := host.nextNumber
    waiting := s.process.number :: s.process.waiting
    detached := s.process.detached || detached
    ignored := if detached then 2 :: 3 :: s.process.ignored else s.process.ignored }
  { s with
    process := if detached then process.attach 0 (some .null) else process
    traps := s.traps.filter (·.2.isEmpty)
    pending := []
    jobs := [] }

/-- Do something in a process of its own, and keep what it did to the host. -/
def inChild (detached : Bool) (act : Run (Except Halt Nat)) : Run (Except Halt Nat) := do
  modify fun s ↦ s.makeRoom.2
  let s ← get
  let (result, after) := act.run.run (s.child detached)
  set { s with process := { s.process with host := after.process.host } }
  match result with
  | .ok ending => return ending
  | .error _ => return .ok after.status

def tellDeath (signal : Nat) : Run Unit := do
  if signal ≠ 2 ∧ signal ≠ 13 then
    lift (writeBytes 2 (Bytes.ofString (signalDescription signal ++ "\n")))

def await (ending : Except Halt Nat) : Run Nat := do
  receiveSent
  match ending with
  | .ok status => return status % 256
  | .error (.killed signal) =>
    tellDeath signal
    return 128 + signal
  | .error .paused => throw (.halt .paused)

def startBeside (act : Run (Except Halt Nat)) : Run Unit := do
  let (slot, s) := (← get).makeRoom
  let number := s.process.host.nextNumber
  set { s with process := { s.process with host := { s.process.host with rested := false } } }
  let ending ← inChild true act
  let s' ← get
  let goesOn := s'.process.host.rested
  let job : Job := match ending with
    | .ok status => { slot, number, status := status % 256, goesOn }
    | .error (.killed signal) => 
      { slot, number, status := 128 + signal, signal := some signal, goesOn }
    | .error .paused => { slot, number, status := 0, goesOn := true }
  let host := { s'.process.host with rested := s.process.host.rested }
  set { s' with
    process := { s'.process with host }, jobs := s'.jobs ++ [job], lastDetached := some number }

def waitFor (tells : Bool) (job : Job) : Run Nat := do
  if job.goesOn then lift rest
  modify (·.updateJob job.number fun j ↦ { j with goesOn := false, waited := true })
  if tells then
    if let some signal := job.signal then tellDeath signal
  return job.status

def wait (arguments : List Bytes) : Run Nat := do
  let names ← operands arguments
  receiveSent
  if names.isEmpty then
    for job in (← get).jobs do
      let _ ← waitFor false job
    return 0
  let mut status := 127
  for name in names do
    let found ← (do
      if name.head? = some (byteOf '%') then return some (← namedJob name)
      let number ← natural name
      return (← get).jobs.find? fun (j : Job) ↦ j.number = number : Run (Option Job))
    match found with
    | some job => status ← waitFor true job
    | none => status := 127
  return status

inductive Round where
  | done (status : Nat)
  | again
  | left

/-- Go round once. A jump out of several loops stays one until it has come to the last of them. -/
def round (act : Run Nat) : Run Round := do
  match ← attempt act with
  | .ok status => return .done status
  | .error (.leave n) => if n ≤ 1 then return .left else throw (.leave (n - 1))
  | .error (.again n) => if n ≤ 1 then return .again else throw (.again (n - 1))
  | .error jump => throw jump

def rounds (whileTrue : Bool) (test body : Run Nat) : Nat → Nat → Run Nat
  | 0, _ => throw (.halt .paused)
  | fuel + 1, status => do
    match ← round test with
    | .left => return status
    | .again => rounds whileTrue test body fuel status
    | .done t =>
      if (t == 0) != whileTrue then return status
      match ← round body with
      | .left => return 0
      | .again => rounds whileTrue test body fuel 0
      | .done status => rounds whileTrue test body fuel status

def roundEach (body : Bytes → Run Nat) : Nat → List Bytes → Run Nat
  | status, [] => return status
  | _, field :: fields => do
    match ← round (body field) with
    | .left => return 0
    | .again => roundEach body 0 fields
    | .done status => roundEach body status fields

def looping (act : Run Nat) : Run Nat := do
  modify fun s ↦ { s with loops := s.loops + 1 }
  let result ← attempt act
  modify fun s ↦ { s with loops := s.loops - 1 }
  match result with
  | .ok status => return status
  | .error jump => throw jump

def eachCommand (step : Tree → Run Nat) : Nat → Nat → Reader → Run Nat
  | 0, status, _ => return status
  | fuel + 1, status, reader => do
    let (result, reader) := reader.read (← get).aliases
    modify fun s ↦ { s with
      nextDocument := reader.nextDocument
      documents := reader.documents ++ s.documents
      readingLine := reader.line }
    match result with
    | .error text =>
      modify fun s ↦ { s with messageLine := reader.line }
      fail text
    | .ok none => return status
    | .ok (some .nothing) => eachCommand step fuel status reader
    | .ok (some tree) =>
      let status ← step tree
      eachCommand step fuel status reader

def trimmed (output : Bytes) : Bytes :=
  ((output.filter (· ≠ 0)).reverse.dropWhile (· = 0x0A)).reverse

def leavingStatus (jump : Option Jump) : Run Nat := do
  let s ← get
  let status := match jump with
    | some .exit => s.final.getD s.status
    | _ => s.status
  set { s with status, final := some status }
  return status

def State.ofProcess (p : Process) (words : List Bytes) : State :=
  let given (name value : String) : Bytes × Variable :=
    (Bytes.ofString name, { value := some (Bytes.ofString value) })
  let s : State := {
    process := p
    root := p.number
    name := words.headD []
    store := [
      ("IFS", { value := some State.defaultSeparators }), ("PATH", { value := some standardPath }),
      given "PS1" "# ", given "PS2" "> ", given "PS4" "+ ", given "OPTIND" "1"]
    deaf := p.ignored }
  let imported (s : State) (entry : Bytes) : State :=
    let name := entry.takeWhile (· ≠ byteOf '=')
    if isName name && name.length < entry.length then
      s.putVariable name { value := some (entry.drop (name.length + 1)), exported := true }
    else s
  let s := p.environment.foldl imported s
  let keep (s : State) (name value : Bytes) : State :=
    s.putVariable name { (s.stored? name).getD {} with value := some value }
  let s := keep s "IFS" State.defaultSeparators
  let s := keep s "OPTIND" "1"
  let s := keep s "PPID" (decimal (p.waiting.headD 1))
  let named := (s.value? "PWD").getD []
  let isHere := Path.isAbsolute named &&
    (p.host.files.directory p.directory named).toOption = some p.directory
  let directoryName := if isHere then named else Place.path p.directory
  { s.putVariable "PWD" { value := some directoryName, exported := true } with directoryName }

def scriptText (path : Path) : Run Bytes := do
  let s ← get
  match s.process.host.files.find true s.process.directory path with
  | .ok (_, .file _ content) => return content
  | .ok _ => return []
  | .error e => fail ("cannot open " ++ path ++ ": " ++ Bytes.ofString (refusal e "No such file"))

def sourcePath (name : Bytes) : Run Path := do
  if name.contains Path.slash then return name
  let s ← get
  let isFile (path : Path) : Bool :=
    match s.process.host.files.find true s.process.directory path with
    | .ok (_, .file ..) | .ok (_, .tool _) => true
    | _ => false
  let paths := (FileTree.splitColon s.searchPath).map (FileTree.inDirectory · name)
  match paths.find? isFile with
  | some path => return path
  | none => fail (name ++ ": not found")

/-- Show a command before it runs, on the standard error that the shell itself has. -/
def trace (errors : Option Channel) (words : List Bytes) : Run Unit := do
  let s ← get
  let line := (s.value? "PS4").getD [] ++ joined words ++ [0x0A]
  if let some channel := errors then
    if let .ok process := s.process.writeTo channel line then set { s with process }

def restore (descriptors : List (Nat × Channel)) (frames : Nat) : Run Unit := do
  restoreDescriptors descriptors
  unwind frames

mutual

/-- Run a command. Programs run to their end before the shell goes on, those beside it too. What
needs more depth than there is dies as it would without a stack to run on. -/
def run : Nat → Way → Tree → Run Nat
  | 0, _, _ => exhausted
  | _, _, .nothing => return 0
  | fuel + 1, way, tree => do
    if (← get).has 'n' then return 0
    runTraps fuel
    let status ← runForm fuel way tree
    setStatus status
    runTraps fuel
    let counts := match tree with
      | .simple .. | .subshell .. | .detached .. | .pipeline .. | .redirected .. => true
      | _ => false
    let fails := counts && !way.tested && status ≠ 0 && (← get).has 'e'
    if fails || way.last then throw .exit
    return status

def runForm : Nat → Way → Tree → Run Nat
  | 0, _, _ => exhausted
  | fuel + 1, way, tree => do
    let inner : Way := { tested := way.tested }
    match tree with
    | .nothing => return 0
    | .simple line assignments words redirections =>
      simple fuel way line assignments words redirections
    | .negation body => return if (← run fuel { tested := true } body) = 0 then 1 else 0
    | .sequence first second =>
      let _ ← run fuel inner first
      run fuel way second
    | .both first second =>
      let status ← run fuel { tested := true } first
      if status ≠ 0 then return status else run fuel way second
    | .either first second =>
      let status ← run fuel { tested := true } first
      if status = 0 then return status else run fuel way second
    | .choice test body otherwise =>
      if (← run fuel { tested := true } test) = 0 then run fuel way body
      else run fuel way otherwise
    | .redirected line body redirections =>
      arrive line
      let ds ← destinations (substitute fuel) redirections
      let before := (← get).process.descriptors
      let refused ← redirectSafely (substitute fuel) ds
      let result ← if refused ≠ 0 then pure (.ok refused) else attempt (run fuel inner body)
      restoreDescriptors before
      match result with
      | .ok status => return status
      | .error jump => throw jump
    | .subshell line body redirections =>
      arrive line
      let ds ← destinations (substitute fuel) redirections
      let act : Run Nat := do
        redirectAll (substitute fuel) ds
        run fuel { way with last := true } body
      if way.last && (← get).traps.all (·.2.isEmpty) then act
      else await (← inChild false (conclude fuel act))
    | .detached line body redirections =>
      arrive line
      let ds ← destinations (substitute fuel) redirections
      startBeside (conclude fuel do
        redirectAll (substitute fuel) ds
        run fuel { last := true } body)
      return 0
    | .pipeline true members =>
      startBeside (conclude fuel do connect fuel way none members)
      return 0
    | .pipeline false members => connect fuel way none members
    | .loop whileTrue test body =>
      looping (rounds whileTrue (run fuel { tested := true } test) (run fuel inner body)
        roundLimit 0)
    | .each line name words body =>
      arrive line
      let fields := (← words.mapM (expandFields (substitute fuel))).flatten
      looping (roundEach (fun field ↦ do
        assign name field
        run fuel inner body) 0 fields)
    | .select line word arms =>
      arrive line
      let text := (← expandText (substitute fuel) Mode.plain word).characters
      for (labels, body) in arms do
        for label in labels do
          let pattern ← expandPattern (substitute fuel) label
          if Pattern.fits pattern text then return ← run fuel way body
      return 0
    | .function name body =>
      modify fun s ↦
        { s with functions := (name, body) :: s.functions.filter (·.1 ≠ name) }
      return 0

/-- Run the members of a pipeline, each in a process that reads what the one before has written.
The last one's status counts. -/
def connect : Nat → Way → Option Channel → List Tree → Run Nat
  | 0, _, _, _ => exhausted
  | _, _, _, [] => return 0
  | fuel + 1, way, input, member :: rest => do
    let (number, process) := (← get).process.addPipe []
    modify fun s ↦ { s with process }
    let act : Run Nat := do
      if input.isSome then attach 0 input
      if !rest.isEmpty then attach 1 (some (.pipe number))
      run fuel { way with last := true } member
    let status ← await (← inChild false (conclude fuel act))
    if rest.isEmpty then return status else connect fuel way (some (.pipe number)) rest

def simple : Nat → Way → Nat → List Word → List Word → List Redirection → Run Nat
  | 0, _, _, _, _, _ => exhausted
  | fuel + 1, way, line, assignments, words, redirections => do
    arrive line
    modify fun s ↦ { s with substituted := 0 }
    let call ← Call.ofWords (substitute fuel) words
    let name := call.name?.getD []
    let replaces := name = ("exec" : Bytes) && 1 < call.words.length
    let ofItsOwn := call.name?.isSome && !call.special
    let frames := (← get).frames.length
    if ofItsOwn then modify fun s ↦ { s with frames := [] :: s.frames }
    let before := (← get).process.descriptors
    let errors := (← get).process.channel? 2
    let ds ← destinations (substitute fuel) redirections
    let refused ← redirectSafely (substitute fuel) ds
    if refused ≠ 0 then
      setStatus refused
      if call.special then throw .error
      restore before frames
      return refused
    let mut shown : List Bytes := []
    for word in assignments do
      let text ← expandText (substitute fuel) Mode.assignment word
      let (target, value) := cutAssignment text
      if ofItsOwn then remember target
      assign target (value.getD [])
      if ofItsOwn || replaces then exportVariable target
      shown := shown ++ [text]
    if (← get).has 'x' then trace errors (shown ++ call.fields)
    let s ← get
    let path := if call.standard then State.standardPath else s.searchPath
    match s.target call path with
    | .missing e =>
      warn (name ++ ": " ++ Bytes.ofString (refusal e "not found"))
      setStatus 127
      if call.special then throw .error
      restore before frames
      return 127
    | .program found =>
      if let some file := found then if !call.standard then track name file
      if way.last && s.traps.all (·.2.isEmpty) then become fuel path call.words
      else
        let ending ← inChild false (conclude fuel (become fuel path call.words))
        let status ← await ending
        restore before frames
        return status
    | target =>
      let result ← attempt (match target with
        | .function body => invoke fuel way body (call.words.drop 1)
        | .builtin name => perform fuel way name call.special (call.words.drop 1)
        | _ => return (← get).substituted)
      match result with
      | .ok status =>
        if name = ("exec" : Bytes) then unwind frames else restore before frames
        return status
      | .error (.leave n) =>
        restore before frames
        throw (.leave n)
      | .error (.again n) =>
        restore before frames
        throw (.again n)
      | .error .comeBack =>
        restore before frames
        throw .comeBack
      | .error jump =>
        restoreDescriptors before
        throw jump

def invoke : Nat → Way → Tree → List Bytes → Run Nat
  | 0, _, _, _ => exhausted
  | fuel + 1, way, body, arguments => do
    let s ← get
    set { s with arguments, loops := 0, optionIndex := 1, optionOffset := none }
    let result ← attempt (run fuel { tested := way.tested } body)
    modify fun s' ↦ { s' with
      arguments := s.arguments, loops := s.loops
      optionIndex := s.optionIndex, optionOffset := s.optionOffset }
    match result with
    | .ok _ | .error .comeBack => return (← get).status
    | .error jump => throw jump

/-- Carry out a command of the shell's own. Unless it is special, what goes wrong is only its
status. -/
def perform : Nat → Way → Bytes → Bool → List Bytes → Run Nat
  | 0, _, _, _, _ => exhausted
  | fuel + 1, way, name, special, arguments => do
    let speaker := (← get).speaker
    modify fun s ↦ { s with speaker := some name }
    let act : Run Nat :=
      if name = ("eval" : Bytes) then
        if arguments.isEmpty then return 0
        else runText fuel way.tested (joined arguments)
      else if name = ("." : Bytes) then source fuel arguments
      else if name = ("exec" : Bytes) then
        if arguments.isEmpty then return 0
        else do become fuel (← get).searchPath arguments
      else if name = ("wait" : Bytes) then wait arguments
      else match builtin? name with
        | some command => command arguments
        | none => return 0
    let result ← attempt do
      let status ← act
      if (← get).unwritten then
        warn (name ++ ": I/O error")
        setStatus (status ||| 1)
      else setStatus status
    modify fun s ↦ { s with speaker, unwritten := false }
    match result with
    | .ok () => return (← get).status
    | .error .error => if special then throw .error else return (← get).status
    | .error jump => throw jump

def source : Nat → List Bytes → Run Nat
  | 0, _ => exhausted
  | fuel + 1, arguments => do
    match ← operands arguments with
    | [] => return 0
    | name :: _ =>
      let path ← sourcePath name
      let text ← scriptText path
      modify fun s ↦ { s with speaker := some path }
      match ← attempt (runText fuel false text) with
      | .ok status => return status
      | .error .comeBack => return (← get).status
      | .error jump => throw jump

def become : Nat → Bytes → List Bytes → Run Nat
  | 0, _, _ => exhausted
  | fuel + 1, path, words => do
    let s ← get
    match s.image path words with
    | .ok image =>
      let process := { s.process with environment := s.environment, ignored := s.ignored }
      let (result, after) := (program fuel image).run.run process
      set { s with process := { s.process with host := after.host } }
      match result with
      | .ok status =>
        setStatus status
        throw .gone
      | .error h => throw (.halt h)
    | .error e =>
      warn (words.headD [] ++ ": " ++ Bytes.ofString (refusal e "not found"))
      let missing := e = .noEntry ∨ e = .notDirectory ∨ e = .linkLoop ∨ e = .nameTooLong
      modify fun s ↦ { s with final := some (if missing then 127 else 126) }
      throw .exit

/-- Run the commands of a text. Their status may be one that only decides what comes next. -/
def runText : Nat → Bool → Bytes → Run Nat
  | 0, _, _ => exhausted
  | fuel + 1, tested, text => do
    let s ← get
    let start := Reader.ofText text s.nextDocument
    let status ← eachCommand (run fuel { tested }) (text.length + 1) 0 start
    modify fun s' ↦ { s' with readingLine := s.readingLine }
    return status

def runTraps : Nat → Run Unit
  | 0 => return ()
  | fuel + 1 => do
    let s ← get
    if s.pending.isEmpty then return ()
    let status := s.final.getD s.status
    set { s with pending := [], final := some status }
    for signal in (s.pending.mergeSort (· ≤ ·)).eraseDups do
      if let some action := (← get).traps.lookup signal then
        let _ ← runText fuel false action
        setStatus status
    modify fun s' ↦ { s' with final := s.final }

def conclude : Nat → Run Nat → Run (Except Halt Nat)
  | 0, _ => exhausted
  | fuel + 1, act => do
    let leave (jump : Option Jump) : Run (Except Halt Nat) := do
      let status ← leavingStatus jump
      match (← get).traps.lookup 0 with
      | none => return .ok status
      | some action =>
        modify fun s ↦ { s with traps := s.traps.filter (·.1 ≠ 0) }
        match ← attempt (runText fuel false action) with
        | .error (.halt h) => return .error h
        | .error .error | .error .gone => return .ok (← get).status
        | _ => return .ok ((← get).final.getD status)
    match ← attempt act with
    | .error (.halt h) => return .error h
    | .error .gone => return .ok (← get).status
    | .error jump => leave (some jump)
    | .ok _ => leave none

def substitute : Nat → Tree → Run Bytes
  | 0, _ => exhausted
  | _, .nothing => return []
  | fuel + 1, tree => do
    let (number, process) := (← get).process.addPipe []
    modify fun s ↦ { s with process }
    let status ← await (← inChild false (conclude fuel do
      attach 1 (some (.pipe number))
      run fuel { last := true } tree))
    modify fun s ↦ { s with substituted := status }
    return trimmed ((← get).process.host.pipes.getD number [])

def program : Nat → Image → Act Nat
  | 0, _ => throw (.killed 11)
  | fuel + 1, image => do
    match image.tool with
    | .shell => return (← shell fuel image.words) % 256
    | .env =>
      match ← Toolbox.surround image.words with
      | .ended status => return status
      | .become next => program fuel next
    | tool => Toolbox.use tool image.words

def shell : Nat → List Bytes → Act Nat
  | 0, _ => throw (.killed 11)
  | fuel + 1, words => do
    let (result, s) := (conclude fuel (start fuel words)).run.run (State.ofProcess (← get) words)
    set s.process
    match result with
    | .ok (.ok status) => return status
    | .ok (.error h) => throw h
    | .error _ => return s.status

def start : Nat → List Bytes → Run Nat
  | 0, _ => exhausted
  | fuel + 1, words => do
    let (isText, _, rest) ← setOptions true (words.length + 1) (words.drop 1)
    let fromInput (arguments : List Bytes) : Run Nat := do
      modify fun s ↦ { s with arguments }
      let text := (← lift (readAll 0)).toOption.getD []
      runText fuel false text
    match isText, rest with
    | true, [] => fail "-c requires an argument"
    | true, text :: rest =>
      if let name :: arguments := rest then modify fun s ↦ { s with name, arguments }
      let status ← runText fuel false text
      if (← get).has 's' then fromInput (← get).arguments else return status
    | false, [] => fromInput []
    | false, path :: arguments =>
      if (← get).has 's' then fromInput rest
      else
        let text ← scriptText path
        modify fun s ↦ { s with name := path, arguments }
        runText fuel false text

end

end IngestCheck.Host.Shell
