import IngestCheck.Host.Launch
import IngestCheck.Host.Toolbox.Basic
import IngestCheck.Text.Floating

namespace IngestCheck.Host.Toolbox

def printDirectory (words : List Bytes) : Act Nat :=
  given (flags "LP" [("logical", 'L'), ("physical", 'P')]) words fun name g ↦ do
    let p ← get
    let path := Place.path p.directory
    let wanted := (p.value? "PWD").getD []
    let isWanted := Path.isAbsolute wanted && Path.normal wanted = wanted &&
      (p.host.files.directory p.directory wanted).toOption = some p.directory
    print name ((if g.has 'L' && isWanted then wanted else path) ++ [0x0A])

def printVariables (words : List Bytes) : Act Nat :=
  given { flags "0" [("null", '0')] with anywhere := false, status := 2 } words fun name g ↦ do
    let p ← get
    let ending : Bytes := [if g.has '0' then 0 else 0x0A]
    if g.operands.isEmpty then print name (p.environment.flatMap (· ++ ending))
    else each g.operands fun a ↦
      match if a.contains (byteOf '=') then none else p.value? a with
      | some value => print name (value ++ ending)
      | none => return 1

/-- A time span: a number no less than zero, with a letter that may say what it counts. Whether it
takes any time at all comes with the answer. -/
def span? (text : Bytes) : Option Bool :=
  match Floating.read? text.characters with
  | none => none
  | some (written, rest) =>
    let isUnit := match rest with
      | [] => true
      | [c] => ['s', 'm', 'h', 'd'].contains c
      | _ => false
    let positive : Option Bool := match written with
      | .decimal d => if d.negative && d.digits ≠ 0 then none else some (d.digits != 0)
      | .infinity negative => if negative then none else some true
      | .notANumber => none
    if isUnit then positive else none

def sleep (words : List Bytes) : Act Nat :=
  given (flags "" []) words fun name g ↦ do
    if g.operands.isEmpty then return ← misuse name 1 "missing operand"
    let wrong := g.operands.filter fun a ↦ (span? a).isNone
    if wrong.isEmpty then
      if g.operands.any fun a ↦ span? a = some true then rest
      return 0
    for a in wrong do
      let _ ← fault name ("invalid time interval " ++ cited a)
    writeBytes 2 ("Try '" ++ name ++ " --help' for more information.\n")
    return 1

def splitWords (value? : Bytes → Option Bytes) :
    Nat → Option Char → Option (List Char) → List Char → Except String (List Bytes)
  | 0, _, _, _ => .ok []
  | _, quote, word, [] =>
    if quote.isSome then .error "no terminating quote in -S string"
    else .ok (word.toList.map fun w ↦ Bytes.ofCharacters w.reverse)
  | fuel + 1, quote, word, c :: rest =>
    let grown (cs : List Char) : Option (List Char) := some (cs.reverse ++ word.getD [])
    let isBlank := Number.isBlank c
    if quote = some c then splitWords value? fuel none word rest
    else if quote.isNone ∧ (c = '"' ∨ c = '\'') then
      splitWords value? fuel (some c) (some (word.getD [])) rest
    else if quote.isNone && isBlank then do
      let more ← splitWords value? fuel none none rest
      return (word.toList.map fun w ↦ Bytes.ofCharacters w.reverse) ++ more
    else if quote.isNone ∧ word.isNone ∧ c = '#' then .ok []
    else if c = '\\' ∧ quote = some '\'' then
      match rest with
      | d :: more =>
        if d = '\\' ∨ d = '\'' then splitWords value? fuel quote (grown [d]) more
        else splitWords value? fuel quote (grown [c]) rest
      | [] => .error "invalid backslash at end of string in -S"
    else if c = '\\' then
      let letters := [('f', '\x0C'), ('n', '\n'), ('r', '\r'), ('t', '\t'), ('v', '\x0B'),
        ('#', '#'), ('$', '$'), ('"', '"'), ('\'', '\''), ('\\', '\\')]
      match rest with
      | [] => .error "invalid backslash at end of string in -S"
      | 'c' :: _ =>
        if quote.isSome then .error "'\\c' must not appear in double-quoted -S string"
        else .ok (word.toList.map fun w ↦ Bytes.ofCharacters w.reverse)
      | '_' :: more =>
        if quote.isSome then splitWords value? fuel quote (grown [' ']) more
        else splitWords value? fuel quote word (' ' :: more)
      | d :: more => match letters.lookup d with
        | some e => splitWords value? fuel quote (grown [e]) more
        | none => .error s!"invalid sequence '\\{d}' in -S"
    else if c = '$' ∧ quote ≠ some '\'' then
      let name := (rest.drop 1).takeWhile (· ≠ '\x7d')
      if rest.head? = some '\x7b' && name.length + 1 < rest.length && !name.isEmpty then
        let value := ((value? (Bytes.ofCharacters name)).getD []).characters
        splitWords value? fuel quote (if value.isEmpty then word else grown value)
          (rest.drop (name.length + 2))
      else
        let shown := Bytes.shown (Bytes.ofCharacters (c :: rest))
        .error ("only $\x7bVARNAME\x7d expansion is supported, error at: " ++ shown)
    else splitWords value? fuel quote (grown [c]) rest

/-- What is wrong with words for another surrounding. Only some mistakes call for help. -/
structure Mistake where
  text : Bytes
  hint : Option Bytes := none
  helps : Bool := true

/-- Options for another surrounding. A text that holds words is cut, and read in its turn. -/
def readSurrounding (value? : Bytes → Option Bytes) :
    Nat → List Bytes → Except Mistake Given
  | 0, words => .ok { operands := words }
  | _, [] => .ok {}
  | fuel + 1, word :: rest =>
    let o : Options := {
      letters := [('i', false), ('0', false), ('v', false), ('C', true), ('S', true), ('u', true)]
      names := [("ignore-environment", 'i'), ("null", '0'), ("debug", 'v'), ("chdir", 'C'),
        ("split-string", 'S'), ("unset", 'u')] }
    let onward (r : Except String (List (Char × Bytes) × List Bytes)) : Except Mistake Given :=
      match r with
      | .error text => .error { text }
      | .ok (found, rest) =>
        match found.find? (·.1 = 'S') with
        | some (_, text) =>
          match splitWords value? (text.length + 2) none none text.characters with
          | .error text => .error { text, helps := false }
          | .ok more => do
            let g ← readSurrounding value? fuel (more ++ rest)
            return { g with options := found.filter (·.1 ≠ 'S') ++ g.options }
        | none => do
          let g ← readSurrounding value? fuel rest
          return { g with options := found ++ g.options }
    match word.characters with
    | ['-', '-'] => .ok { operands := rest }
    | '-' :: '-' :: name => onward (o.named name rest)
    | '-' :: c :: cs =>
      let known := (c :: cs).takeWhile fun c ↦ (o.letters.lookup c) = some false
      match (c :: cs).drop known.length with
      | b :: _ =>
        if Number.isBlank b then
          .error {
            text := "invalid option -- " ++ quoted [byteOf b]
            hint := some "use -[v]S to pass options in shebang lines" }
        else onward (o.letter (c :: cs) rest)
      | [] => onward (o.letter (c :: cs) rest)
    | _ => .ok { operands := word :: rest }

inductive Turn where
  | ended (status : Nat)
  | become (image : Image)

def surround (words : List Bytes) : Act Turn := do
  let name := words.headD []
  let p ← get
  let size := words.foldl (fun n word ↦ n + word.length + 1) 1
  match readSurrounding p.value? size (words.drop 1) with
  | .error m =>
    let _ ← fault name m.text
    if let some hint := m.hint then let _ ← fault name hint
    if m.helps then writeBytes 2 ("Try '" ++ name ++ " --help' for more information.\n")
    return .ended 125
  | .ok g =>
    let lone := g.operands.head? = some ("-" : Bytes)
    let operands := if lone then g.operands.drop 1 else g.operands
    let assigned := operands.takeWhile fun a ↦ a.contains (byteOf '=')
    let call := operands.drop assigned.length
    let nameOf (entry : Bytes) : Bytes := entry.takeWhile (· ≠ byteOf '=')
    if g.has '0' && !call.isEmpty then
      return .ended (← misuse name 125 "cannot specify --null (-0) with command")
    if g.has 'C' && call.isEmpty then
      return .ended (← misuse name 125 "must specify command with --chdir (-C)")
    let start := if lone || g.has 'i' then [] else p.environment
    let taken := (g.options.filter (·.1 = 'u')).map (·.2)
    if let some a := taken.find? fun a ↦ a.isEmpty || a.contains (byteOf '=') then
      let _ ← fault name ("cannot unset " ++ cited a ++ ": " ++ describe .invalidArgument)
      return .ended 125
    let kept := start.filter fun entry ↦ !taken.contains (nameOf entry)
    let environment := assigned.foldl (fun es a ↦
      if es.any fun e ↦ nameOf e = nameOf a then
        es.map fun e ↦ if nameOf e = nameOf a then a else e
      else es ++ [a]) kept
    set { p with environment }
    match call with
    | [] =>
      let ending : Bytes := [if g.has '0' then 0 else 0x0A]
      return .ended (← print name (environment.flatMap (· ++ ending)))
    | program :: _ =>
      if let some dir := g.argument? 'C' then
        match p.host.files.directory p.directory dir with
        | .ok place => modify fun p ↦ { p with directory := place }
        | .error e =>
          let _ ← fault name ("cannot change directory to " ++ quoted dir ++ ": " ++ describe e)
          return .ended 125
      let p ← get
      let startAt (path : Path) : Except HostError Image :=
        p.host.files.startOrRead p.directory environment path call
      match FileTree.search startAt ((p.value? "PATH").getD defaultSearchPath) program with
      | .ok image => return .become image
      | .error e =>
        let _ ← fault name (cited program ++ ": " ++ describe e)
        if e = .noEntry && program.characters.any Number.isBlank then
          let _ ← fault name "use -[v]S to pass options in shebang lines"
        return .ended (if e = .noEntry then 127 else 126)

end IngestCheck.Host.Toolbox
