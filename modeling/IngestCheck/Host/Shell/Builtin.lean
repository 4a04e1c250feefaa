import IngestCheck.Host.Launch
import IngestCheck.Host.Shell.Cells
import IngestCheck.Host.Shell.Condition
import IngestCheck.Host.Shell.Format
import IngestCheck.Host.Shell.Jobs
import IngestCheck.Host.Toolbox.Mode

namespace IngestCheck.Host.Shell

def readOptions (letters : List Char) :
    Nat → List Bytes → Run (List (Char × Bytes) × List Bytes)
  | fuel + 1, word :: rest => do
    match word.characters with
    | '-' :: c :: cs =>
      if c = '-' ∧ cs.isEmpty then return ([], rest)
      let rec letter : List Char → List Bytes → Run (List (Char × Bytes) × List Bytes)
        | [], rest => return ([], rest)
        | c :: cs, rest => do
          match letters.dropWhile (· ≠ c) with
          | [] => fail (Bytes.ofString "Illegal option -" ++ [byteOf c])
          | _ :: ':' :: _ =>
            match cs, rest with
            | [], [] => fail (Bytes.ofString s!"No arg for -{c} option")
            | [], a :: rest => return ([(c, a)], rest)
            | cs, rest => return ([(c, Bytes.ofCharacters cs)], rest)
          | _ =>
            let (more, rest) ← letter cs rest
            return ((c, []) :: more, rest)
      let (found, rest) ← letter (c :: cs) rest
      let (more, rest) ← readOptions letters fuel rest
      return (found ++ more, rest)
    | _ => return ([], word :: rest)
  | _, rest => return ([], rest)

def options (letters : String) (words : List Bytes) :
    Run (List (Char × Bytes) × List Bytes) :=
  readOptions letters.toList (words.length + 1) words

def operands (words : List Bytes) : Run (List Bytes) := return (← options "" words).2

def greatestNumber : Int := 0x7FFFFFFF

def natural (word : Bytes) : Run Nat := do
  match Number.whole? 10 word with
  | some n =>
    if 0 ≤ n ∧ n ≤ greatestNumber then return n.toNat
    fail ("Illegal number: " ++ word)
  | none => fail ("Illegal number: " ++ word)

def joined (words : List Bytes) : Bytes := List.intercalate [byteOf ' '] words

def echo (arguments : List Bytes) : Run Nat := do
  emit (Format.line arguments)
  return 0

def printWarning : Format.Warning → Bytes
  | .noNumber text => text ++ ": expected numeric value"
  | .notOnly text => text ++ ": not completely converted"
  | .outOfRange text => text ++ ": Numerical result out of range"

def printFailure : Format.Failure → Bytes
  | .noLetter => "missing format character"
  | .badDirective text => "%" ++ text ++ ": invalid directive"

def printf (arguments : List Bytes) : Run Nat := do
  match ← operands arguments with
  | [] => fail "usage: printf format [arg ...]"
  | format :: rest =>
    let printed := Format.print format rest
    for w in printed.warnings do warn (printWarning w)
    emit printed.output
    match printed.failure with
    | some f => fail (printFailure f)
    | none => return if printed.warnings.isEmpty then 0 else 1

def conditionFlaw : Condition.Flaw → Bytes
  | .noNumber word => "Illegal number: " ++ word
  | .noOperand operator => s!"{operator}: argument expected"
  | .notClosed => "closing paren expected"
  | .unexpected word => word ++ ": unexpected operator"

def test (name : Bytes) (arguments : List Bytes) : Run Nat := do
  let s ← get
  let bracketed := name = ("[" : Bytes)
  if bracketed && arguments.getLast? ≠ some ("]" : Bytes) then fail "missing ]"
  let words := if bracketed then arguments.dropLast else arguments
  match Condition.holds? ⟨s.process.host.files, s.process.directory, fun _ ↦ false⟩ words with
  | .ok true => return 0
  | .ok false => return 1
  | .error flaw => fail (conditionFlaw flaw)

/-- Come to a directory by a path; the name by which it was reached is kept unless links are to be
seen through. -/
def enter (physical : Bool) (path : Path) : Run Bool := do
  let s ← get
  let named := Path.normal (Path.join s.directoryName path)
  let target := if physical then path else named
  match s.process.host.files.directory s.process.directory target with
  | .error _ => return false
  | .ok place =>
    let directoryName := if physical then Place.path place else named
    let exported (name value : Bytes) : Run Unit := do
      assign name value
      exportVariable name
    exported "OLDPWD" s.directoryName
    modify fun s ↦ { s with directoryName, process := { s.process with directory := place } }
    exported "PWD" directoryName
    return true

def changeDirectory (arguments : List Bytes) : Run Nat := do
  let (found, rest) ← options "LP" arguments
  let physical := found.getLast?.any (·.1 = 'P')
  let s ← get
  let back := rest.head? = some ("-" : Bytes)
  let target := match rest with
    | [] => (s.value? "HOME").getD []
    | a :: _ => if back then (s.value? "OLDPWD").getD [] else a
  let target := if target.isEmpty then Path.dot else target
  let isBelow (lead : String) := (Bytes.ofString lead).isPrefixOf target
  let direct := Path.isAbsolute target || target = Path.dot || target = Path.dotDot ||
    isBelow "./" || isBelow "../"
  let places := if direct then [] else match s.value? "CDPATH" with
    | some p => FileTree.splitColon p
    | none => []
  let isDirectory (path : Path) : Bool :=
    (s.process.host.files.directory s.process.directory path).toBool
  let choice := places.find? fun dir ↦ isDirectory (FileTree.inDirectory dir target)
  let path := match choice with
    | some dir => FileTree.inDirectory dir target
    | none => target
  if ← enter physical path then
    if back || choice.any (!·.isEmpty) then emit ((← get).directoryName ++ [0x0A])
    return 0
  fail ("can't cd to " ++ target)

def printDirectory (arguments : List Bytes) : Run Nat := do
  let (found, _) ← options "LP" arguments
  let s ← get
  let path := if found.getLast?.any (·.1 = 'P') then Place.path s.process.directory
    else s.directoryName
  emit (path ++ [0x0A])
  return 0

def showVariables (lead : Bytes) (shown : Variable → Bool) : Run Nat := do
  let s ← get
  let line (x : Bytes × Variable) : Bytes :=
    let start := lead ++ (if lead.isEmpty then [] else [byteOf ' ']) ++ x.1
    match x.2.value with
    | some value => start ++ [byteOf '='] ++ singleQuoted value ++ [0x0A]
    | none => start ++ [0x0A]
  let ordered := (s.store.filter (shown ·.2)).mergeSort fun a b ↦ !decide (b.1 < a.1)
  emit (ordered.flatMap line)
  return 0

def cutAssignment (word : Bytes) : Bytes × Option Bytes :=
  let name := word.takeWhile (· ≠ byteOf '=')
  (name, if name.length = word.length then none else some (word.drop (name.length + 1)))

def markVariables (mark : Variable → Variable) (words : List Bytes) : Run Unit := do
  for word in words do
    let (name, value) := cutAssignment word
    if let some value := value then assign name value
    if !isName name then fail (name ++ ": bad variable name")
    modify fun s ↦ s.putVariable name (mark ((s.stored? name).getD {}))

def exportVariables (arguments : List Bytes) : Run Nat := do
  let (found, rest) ← options "p" arguments
  if !found.isEmpty || rest.isEmpty then showVariables "export" (·.exported)
  else
    markVariables (fun v ↦ { v with exported := true }) rest
    return 0

def fixVariables (arguments : List Bytes) : Run Nat := do
  let (found, rest) ← options "p" arguments
  if !found.isEmpty || rest.isEmpty then showVariables "readonly" (·.fixed)
  else
    markVariables (fun v ↦ { v with fixed := true }) rest
    return 0

def makeLocal (arguments : List Bytes) : Run Nat := do
  if (← get).frames.isEmpty then fail "not in a function"
  for word in ← operands arguments do
    let (name, value) := cutAssignment word
    remember name
    if let some value := value then assign name value
    if !isName name then fail (name ++ ": bad variable name")
  return 0

def unsetAll (arguments : List Bytes) : Run Nat := do
  let (found, rest) ← options "vf" arguments
  for name in rest do
    if found.getLast?.any (·.1 = 'f') then
      modify fun s ↦ { s with functions := s.functions.filter (·.1 ≠ name) }
    else
      let (name, _) := cutAssignment name
      if !isName name then fail (name ++ ": bad variable name")
      if ((← get).stored? name).any (·.fixed) then fail (name ++ ": is read only")
      modify fun s ↦ s.dropVariable name
      if name = ("OPTIND" : Bytes) then fail "Illegal number: "
      if name = ("PATH" : Bytes) then modify fun s ↦ { s with tracked := [] }
  return 0

def optionNames : List (String × Char) := [
  ("errexit", 'e'), ("noglob", 'f'), ("ignoreeof", 'I'), ("interactive", 'i'), ("monitor", 'm'),
  ("noexec", 'n'), ("stdin", 's'), ("xtrace", 'x'), ("verbose", 'v'), ("vi", 'V'), ("emacs", 'E'),
  ("noclobber", 'C'), ("allexport", 'a'), ("notify", 'b'), ("nounset", 'u'),
  ("privileged", 'p'), ("nolog", '1'), ("debug", '2')]

def showOptionCommands : Run Unit := do
  let s ← get
  let line (o : String × Char) : String :=
    "set " ++ (if s.has o.2 then "-o " else "+o ") ++ o.1 ++ "\n"
  emit (Bytes.ofString (String.join (optionNames.map line)))

def showOptions : Run Unit := do
  let s ← get
  let line (o : String × Char) : String :=
    o.1 ++ String.ofList (List.replicate (16 - o.1.length) ' ') ++
      (if s.has o.2 then "on" else "off") ++ "\n"
  emit (Bytes.ofString ("Current option settings\n" ++ String.join (optionNames.map line)))

/-- Set the options that come first among some words. The words left are the operands; whether
there is something to replace the parameters by comes with them. -/
def setOptions (starting : Bool) : Nat → List Bytes → Run (Bool × Bool × List Bytes)
  | fuel + 1, word :: rest => do
    match word.characters with
    | sign :: cs =>
      if sign ≠ '-' ∧ sign ≠ '+' then return (false, false, word :: rest)
      if sign = '-' ∧ (cs = [] ∨ cs = ['-']) then
        if cs = [] && !starting then
          modify fun s ↦ (s.setOption 'x' false).setOption 'v' false
        return (false, !cs.isEmpty, rest)
      let on := sign = '-'
      let mut commandGiven := false
      let mut rest := rest
      for c in cs do
        if starting && c = 'c' then commandGiven := true
        else if starting && c = 'l' then pure ()
        else if c = 'o' then
          match rest with
          | [] => if on then showOptions else showOptionCommands
          | name :: more =>
            match optionNames.find? fun o ↦ Bytes.ofString o.1 = name with
            | some o => modify (·.setOption o.2 on)
            | none => fail ("Illegal option -o " ++ name)
            rest := more
        else if optionLetters.contains c then modify (·.setOption c on)
        else fail (Bytes.ofString "Illegal option -" ++ [byteOf c])
      let (more, reset, left) ← setOptions starting fuel rest
      return (commandGiven || more, reset, left)
    | [] => return (false, false, word :: rest)
  | _, rest => return (false, false, rest)

def setParameters (arguments : List Bytes) : Run Unit :=
  modify fun s ↦ { s with arguments, optionIndex := 1, optionOffset := none }

def set_ (arguments : List Bytes) : Run Nat := do
  if arguments.isEmpty then showVariables [] (·.value.isSome)
  else
    let (_, reset, rest) ← setOptions false (arguments.length + 1) arguments
    if reset || !rest.isEmpty then setParameters rest
    return 0

def shift (arguments : List Bytes) : Run Nat := do
  let n ← match arguments with
    | a :: _ => natural a
    | [] => pure 1
  let s ← get
  if s.arguments.length < n then fail "can't shift that many"
  setParameters (s.arguments.drop n)
  return 0

/-- Read a line from the standard input. The cells tell what a backslash has protected. -/
def readLine (raw : Bool) : Run (List Cell × Bool) := do
  let s ← get
  let bytes := (s.process.unread 0).toOption.getD []
  let rec go : Bytes → List Cell × Nat × Bool
    | [] => ([], 0, false)
    | b :: rest =>
      if b = 0 then let r := go rest; (r.1, r.2.1 + 1, r.2.2)
      else if b = 0x0A then ([], 1, true)
      else if b = byteOf '\\' && !raw then
        match rest with
        | [] => ([], 1, false)
        | c :: rest =>
          let r := go rest
          if c = 0x0A then (r.1, r.2.1 + 2, r.2.2)
          else (.closed :: .byte true c :: .opened false :: r.1, r.2.1 + 2, r.2.2)
      else let r := go rest; (.byte false b :: r.1, r.2.1 + 1, r.2.2)
  let (cells, count, ended) := go bytes
  set { s with process := s.process.skip 0 count }
  return (.opened false :: cells ++ [.closed], ended)

def read (arguments : List Bytes) : Run Nat := do
  let (found, names) ← options "p:r" arguments
  if names.isEmpty then fail "arg count"
  let (cells, ended) ← readLine (found.any (·.1 = 'r'))
  let fields := (fieldsOf (← get).separators (some names.length) cells).map Cell.text
  let rec fill : List Bytes → List Bytes → Run Unit
    | [], _ => return ()
    | name :: names, fields => do
      assign name (fields.headD [])
      fill names (fields.drop 1)
  fill names fields
  return if ended then 0 else 1

def getOptions (arguments : List Bytes) : Run Nat := do
  match ← operands arguments with
  | letters :: name :: given =>
    let s ← get
    let words := if given.isEmpty then s.arguments else given
    let (index, offset) := if words.length + 1 < s.optionIndex then (1, none)
      else (s.optionIndex, s.optionOffset)
    let letters := letters.characters
    let silent := letters.head? = some ':'
    let current := if index ≤ 1 then [] else
      match offset with
      | some o => ((words.getD (index - 2) []).characters).drop o
      | none => []
    let finish (done : Bool) (c : Char) (index : Nat) (left : Nat) : Run Nat := do
      assign "OPTIND" (decimal index)
      assign name [byteOf c]
      let whole := (words.getD (index - 2) []).length
      modify fun s ↦ { s with
        optionIndex := index, optionOffset := if left = 0 then none else some (whole - left) }
      return if done then 1 else 0
    let unsetArgument : Run Unit := modify (·.dropVariable "OPTARG")
    let (text, index, isEnd) := match current with
      | [] => match words[index - 1]? with
        | some word => match word.characters with
          | '-' :: c :: rest =>
            if c = '-' ∧ rest.isEmpty then ([], index + 1, true) else (c :: rest, index + 1, false)
          | _ => ([], index, true)
        | none => ([], index, true)
      | text => (text, index, false)
    if isEnd then return ← finish true '?' index 0
    let c := text.headD '?'
    let rest := text.drop 1
    match (if c = ':' then [] else letters.dropWhile (· ≠ c)) with
    | [] =>
      if silent then assign "OPTARG" [byteOf c]
      else
        lift (writeBytes 2 (Bytes.ofString "Illegal option -" ++ [byteOf c, 0x0A]))
        unsetArgument
      finish false '?' index rest.length
    | _ :: ':' :: _ =>
      if !rest.isEmpty then
        assign "OPTARG" (Bytes.ofCharacters rest)
        finish false c index 0
      else match words[index - 1]? with
        | some word =>
          assign "OPTARG" word
          finish false c (index + 1) 0
        | none =>
          if silent then
            assign "OPTARG" [byteOf c]
            finish false ':' index 0
          else
            lift (writeBytes 2 (Bytes.ofString s!"No arg for -{c} option\n"))
            unsetArgument
            finish false '?' index 0
    | _ =>
      assign "OPTARG" []
      finish false c index rest.length
  | _ => fail "Usage: getopts optstring var [arg...]"

/-- Let a signal reach the shell: it waits for its trap, or has its usual effect. -/
def receive (signal : Nat) : Run Unit := do
  let s ← get
  match s.traps.lookup signal with
  | some action =>
    if isUnstoppable signal then lift (strike signal)
    else if !action.isEmpty then set { s with pending := s.pending ++ [signal] }
  | none => lift (strike signal)

def receiveSent : Run Unit := do
  let s ← get
  let host := s.process.host
  let (own, others) := host.sent.partition (·.1 = s.process.number)
  if !own.isEmpty then
    set { s with process := { s.process with host := { host with sent := others } } }
    for x in own do receive x.2

def sendTo (signal : Nat) (target : Int) : Run (Except HostError Unit) := do
  let s ← get
  if target = s.process.number ∨ target ≤ 0 then
    receive signal
    return .ok ()
  else match s.jobs.find? fun (j : Job) ↦ (j.number : Int) = target with
    | some job =>
      if job.goesOn && effect signal = .death then
        set (s.updateJob job.number fun j ↦
          { j with status := 128 + signal, signal := some signal, goesOn := false })
      return .ok ()
    | none => lift (sendSignal signal target)

def killUsage : Bytes :=
  "Usage: kill [-s sigspec | -signum | -sigspec] [pid | job]... or\nkill -l [exitstatus]"

def kill (arguments : List Bytes) : Run Nat := do
  if arguments.isEmpty then fail killUsage
  let first := arguments.headD []
  let dashed := first.head? = some (byteOf '-')
  let (listing, signal, targets) ← (do
    if !dashed then return (false, none, arguments)
    match signal? 1 (first.drop 1) with
    | some n => return (false, some n, arguments.drop 1)
    | none =>
      let (found, rest) ← options "ls:" arguments
      let mut signal : Option Nat := none
      for (c, a) in found do
        if c = 's' then
          match signal? 1 a with
          | some n => signal := some n
          | none => fail ("invalid signal number or name: " ++ a)
      return (found.any (·.1 = 'l'), signal, rest))
  let signal := if listing then signal else some (signal.getD 15)
  if listing then
    if signal.isSome then fail killUsage
    match targets with
    | [] =>
      let names := (List.range (signalLimit - 1)).map fun n ↦ signalName (n + 1) ++ "\n"
      emit (Bytes.ofString ("0\n" ++ String.join names))
    | a :: _ =>
      let n ← natural a
      let n := if 128 < n then n - 128 else n
      if n = 0 ∨ signalLimit ≤ n then fail ("invalid signal number or exit status: " ++ a)
      emit (Bytes.ofString (signalName n ++ "\n"))
    return 0
  if targets.isEmpty then fail killUsage
  let mut status := 0
  for a in targets do
    let result : Except HostError Unit ← (do
      if a.head? = some (byteOf '%') then
        /- A job leads no group of processes that a signal could go to. -/
        let _ ← namedJob a
        return .error .noProcess
      let target : Int ← (do
        if a.head? = some (byteOf '-') then return -((← natural (a.drop 1)) : Int)
        return ((← natural a) : Int))
      sendTo (signal.getD 15) target)
    match result with
    | .ok () => pure ()
    | .error e =>
      warn (Bytes.ofString (describe e ++ "\n"))
      status := 1
  return status

def trap (arguments : List Bytes) : Run Nat := do
  match ← operands arguments with
  | [] =>
    let s ← get
    let line (t : Nat × Bytes) : Bytes :=
      Bytes.ofString "trap -- " ++ singleQuoted t.2 ++ Bytes.ofString s!" {signalName t.1}\n"
    emit ((s.traps.mergeSort fun a b ↦ a.1 ≤ b.1).flatMap line)
    return 0
  | first :: rest =>
    let isNumber := first.all (fun b ↦ 0x30 ≤ b && b ≤ 0x39) && (signal? 0 first).isSome
    let (action, names) := if rest.isEmpty || isNumber then (none, first :: rest)
      else (if first = ("-" : Bytes) then none else some first, rest)
    for name in names do
      match signal? 0 name with
      | none =>
        lift (writeBytes 2 ("trap: " ++ name ++ ": bad trap\n"))
        return 1
      | some n =>
        modify fun s ↦
          let others := s.traps.filter (·.1 ≠ n)
          match action with
          | none => { s with traps := others }
          | some a =>
            if s.deaf.contains n then s else { s with traps := (n, a) :: others }
    return 0

def octalText (n : Nat) : Bytes :=
  Bytes.ofCharacters (Floating.leftPad 4 (Number.digits 8 n))

def umask (arguments : List Bytes) : Run Nat := do
  let (found, rest) ← options "S" arguments
  let s ← get
  match rest with
  | [] =>
    if found.isEmpty then emit (octalText s.process.mask ++ [0x0A])
    else
      let allowed (unit : Nat) : String :=
        let bits := 7 - s.process.mask / unit % 8
        (if bits &&& 4 ≠ 0 then "r" else "") ++ (if bits &&& 2 ≠ 0 then "w" else "") ++
          (if bits &&& 1 ≠ 0 then "x" else "")
      emit (Bytes.ofString s!"u={allowed 64},g={allowed 8},o={allowed 1}\n")
    return 0
  | a :: _ =>
    let become (mask : Nat) : Run Nat := do
      set { s with process := { s.process with mask := mask % 512 } }
      return 0
    let text := a.characters
    if text.head?.any Char.isDigit then
      if text.all (Number.isDigitOf 8) then become (Number.valueOf 8 text)
      else fail ("Illegal number: " ++ a)
    else if text.isEmpty then return 0
    else match Toolbox.Mode.changed? 0 false a (0o777 ^^^ s.process.mask) with
      | some allowed => become (0o777 ^^^ (allowed &&& 0o777))
      | none => fail ("Illegal mode: " ++ a)

inductive Meaning where
  | keyword
  | aliased (text : Bytes)
  | function
  | builtin (special : Bool)
  | file (path : Path)
  | unknown

def regularCommands : List Bytes :=
  (["alias", "bg", "cd", "chdir", "command", "echo", "false", "fg", "getopts", "hash", "jobs",
    "kill", "printf", "pwd", "read", "test", "[", "true", "type", "ulimit", "umask", "unalias",
    "wait"] : List String).map Bytes.ofString

def isBuiltin (name : Bytes) : Bool :=
  Read.specialCommands.contains name || regularCommands.contains name

def State.find (s : State) (path name : Bytes) : Except HostError Path :=
  let files := s.process.host.files
  let step (found : Except HostError Path) (dir : Bytes) : Except HostError Path :=
    match found with
    | .ok p => .ok p
    | .error e =>
      let candidate := FileTree.inDirectory dir name
      match files.program s.process.directory candidate with
      | .ok _ => .ok candidate
      | .error (.os 2) | .error (.os 20) => .error e
      | .error e => .error e
  (FileTree.splitColon path).foldl step (.error .noEntry)

def State.meaning (s : State) (name : Bytes) : Meaning :=
  if Token.keywords.any fun k ↦ Bytes.ofString k.1 = name then .keyword
  else if let some text := s.aliases.lookup name then .aliased text
  else if name.contains Path.slash then
    if s.process.host.files.leads s.process.directory name then .file name else .unknown
  else if (s.functions.lookup name).isSome then .function
  else if isBuiltin name then .builtin (Read.specialCommands.contains name)
  else match s.find s.searchPath name with
    | .ok path => .file path
    | .error _ => .unknown

def track (name : Bytes) (path : Path) : Run Unit := do
  if !name.contains Path.slash then
    modify fun s ↦ { s with tracked := (name, path) :: s.tracked.filter (·.1 ≠ name) }

def describeCommand (verbose : Bool) (name : Bytes) : Run Nat := do
  let tell (long : Bytes) (short : Bytes) : Run Nat := do
    emit ((if verbose then name ++ long else short) ++ [0x0A])
    return 0
  match (← get).meaning name with
  | .keyword => tell " is a shell keyword" name
  | .aliased text =>
    tell (" is an alias for " ++ text) ("alias " ++ name ++ byteOf '=' :: singleQuoted text)
  | .function => tell " is a shell function" name
  | .builtin special => tell (if special then " is a special shell builtin"
      else " is a shell builtin") name
  | .file path =>
    let isTracked := ((← get).tracked.lookup name).isSome
    track name path
    tell ((if isTracked then " is a tracked alias for " else " is ") ++ path) path
  | .unknown =>
    if verbose then emit (name ++ ": not found\n")
    return 127

def type (arguments : List Bytes) : Run Nat := do
  let mut status := 0
  for name in ← operands arguments do status := status ||| (← describeCommand true name)
  return status

/-- The commands that have been looked for along the search path and found, in the order of the
drawers that they are kept in. -/
def trackedPaths (s : State) : List Path :=
  let drawer (name : Bytes) : Nat :=
    ((name.headD 0).toNat * 16 + name.foldl (fun n b ↦ n + b.toNat) 0) % 31
  (s.tracked.mergeSort fun a b ↦ drawer a.1 ≤ drawer b.1).map (·.2)

def hash (arguments : List Bytes) : Run Nat := do
  let (found, names) ← options "r" arguments
  if !found.isEmpty then
    modify fun s ↦ { s with tracked := [] }
    return 0
  if names.isEmpty then emit ((trackedPaths (← get)).flatMap (· ++ [0x0A]))
  let mut status := 0
  for name in names do
    modify fun s ↦ { s with tracked := s.tracked.filter (·.1 ≠ name) }
    let s ← get
    let isOwn := (s.functions.lookup name).isSome || isBuiltin name
    if !name.contains Path.slash && !isOwn then
      match s.find s.searchPath name with
      | .ok path => track name path
      | .error e =>
        warn (name ++ ": " ++ Bytes.ofString (refusal e "not found"))
        status := 1
  return status

/-- Nothing can be taken up again, since the shell keeps no terminal. -/
def resume (arguments : List Bytes) : Run Nat := do
  let names ← operands arguments
  let _ ← namedJob (names.headD "%")
  fail ("job " ++ names.headD "(null)" ++ " not created under job control")

def jobs (arguments : List Bytes) : Run Nat := do
  let (found, names) ← options "lp" arguments
  let mode := found.getLast?.map (·.1)
  if names.isEmpty then
    for j in (← get).jobs.reverse do tellJob mode j
  for name in names do tellJob mode (← namedJob name)
  return 0

def limitLetters : String := "HSatfdscmlpnvwr"

/-- There are no limits. One that is set has no effect. -/
def limit (arguments : List Bytes) : Run Nat := do
  let (found, rest) ← options limitLetters arguments
  match rest with
  | [] =>
    emit "unlimited\n"
    return 0
  | a :: more =>
    if !more.isEmpty || found.any (·.1 = 'a') then fail "too many arguments"
    if a ≠ ("unlimited" : Bytes) && !a.characters.all Char.isDigit then fail "bad number"
    return 0

def command (arguments : List Bytes) : Run Nat := do
  let (found, rest) ← options "pvV" arguments
  match found.filter (·.1 ≠ 'p'), rest with
  | _ :: _, name :: _ => describeCommand (found.any (·.1 = 'V')) name
  | _, _ => return 0

def aliasLine (x : Bytes × Bytes) : Bytes :=
  x.1 ++ byteOf '=' :: singleQuoted x.2 ++ [0x0A]

def giveAliases (arguments : List Bytes) : Run Nat := do
  let words ← operands arguments
  if words.isEmpty then
    let ordered := (← get).aliases.mergeSort fun a b ↦ State.drawer a.1 ≤ State.drawer b.1
    emit (ordered.flatMap aliasLine)
  let mut status := 0
  for word in words do
    let name := word.take 1 ++ (word.drop 1).takeWhile (· ≠ byteOf '=')
    let s ← get
    if name.length < word.length then
      let text := word.drop (name.length + 1)
      if (s.aliases.lookup name).isSome then
        let renewed (x : Bytes × Bytes) : Bytes × Bytes := if x.1 = name then (name, text) else x
        set { s with aliases := s.aliases.map renewed }
      else set { s with aliases := s.aliases ++ [(name, text)] }
    else match s.aliases.lookup name with
      | some text => emit (aliasLine (name, text))
      | none =>
        lift (writeBytes 2 ("alias: " ++ name ++ " not found\n"))
        status := 1
  return status

def unalias (arguments : List Bytes) : Run Nat := do
  let (found, names) ← options "a" arguments
  if !found.isEmpty then
    modify fun s ↦ { s with aliases := [] }
    return 0
  let mut status := 0
  for name in names do
    let s ← get
    if (s.aliases.lookup name).isSome then
      set { s with aliases := s.aliases.filter fun (x : Bytes × Bytes) ↦ x.1 ≠ name }
    else
      lift (writeBytes 2 ("unalias: " ++ name ++ " not found\n"))
      status := 1
  return status

def exit (arguments : List Bytes) : Run Nat := do
  match arguments with
  | a :: _ =>
    let n ← natural a
    modify fun s ↦ { s with final := some n }
  | [] => pure ()
  throw .exit

def leaveLoops (again : Bool) (arguments : List Bytes) : Run Nat := do
  let n ← match arguments with
    | a :: _ =>
      let n ← natural a
      if n = 0 then fail ("Illegal number: " ++ a)
      pure n
    | [] => pure 1
  let n := min n (← get).loops
  if n = 0 then return 0
  setStatus 0
  throw (if again then .again n else .leave n)

def comeBack (arguments : List Bytes) : Run Nat := do
  match arguments with
  | a :: _ => setStatus (← natural a)
  | [] => pure ()
  throw .comeBack

def builtins : List (String × (List Bytes → Run Nat)) := [
  (":", fun _ ↦ return 0), ("true", fun _ ↦ return 0), ("false", fun _ ↦ return 1),
  ("echo", echo), ("printf", printf), ("test", test "test"), ("[", test "["),
  ("cd", changeDirectory), ("chdir", changeDirectory), ("pwd", printDirectory),
  ("export", exportVariables), ("readonly", fixVariables), ("local", makeLocal),
  ("unset", unsetAll), ("set", set_), ("shift", shift), ("read", read), ("getopts", getOptions),
  ("kill", kill), ("trap", trap), ("umask", umask), ("type", type), ("command", command),
  ("exit", exit), ("break", leaveLoops false), ("continue", leaveLoops true),
  ("return", comeBack), ("hash", hash), ("jobs", jobs), ("fg", resume),
  ("bg", resume),
  ("alias", giveAliases), ("unalias", unalias),
  ("times", fun _ ↦ do
    emit "0m0.000000s 0m0.000000s\n0m0.000000s 0m0.000000s\n"
    return 0),
  ("ulimit", limit)]

def builtin? (name : Bytes) : Option (List Bytes → Run Nat) :=
  (builtins.find? fun b ↦ Bytes.ofString b.1 = name).map (·.2)

end IngestCheck.Host.Shell
