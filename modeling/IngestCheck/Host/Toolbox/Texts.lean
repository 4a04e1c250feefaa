import IngestCheck.Host.Toolbox.Layout
import IngestCheck.Host.Toolbox.Sorting

namespace IngestCheck.Host.Toolbox

/-- The paths to read. A dash, which stands for the standard input, is read without any. -/
def Given.sources (g : Given) : List Path :=
  if g.operands.isEmpty then [[byteOf '-']] else g.operands

/-- Complain that a source cannot be read. What is wrong with the standard input is met again when
it is closed. -/
def unread (name : Bytes) (path : Path) (e : HostError) : Act Nat := do
  let status ← fault name (shown path ++ ": " ++ describe e)
  if path = ("-" : Bytes) && e = .badDescriptor then
    let _ ← fault name ("closing standard input: " ++ describe e)
  return status

def cat (words : List Bytes) : Act Nat :=
  let names := [("number", 'n'), ("number-nonblank", 'b'), ("show-all", 'A'), ("show-ends", 'E'),
    ("show-tabs", 'T'), ("show-nonprinting", 'v'), ("squeeze-blank", 's')]
  given (flags "nubsAetTvE" names) words fun name g ↦ do
    if let .error e := (← get).write 1 [] then
      return ← fault name ("standard output: " ++ describe e)
    let isBare := g.options.all (·.1 = 'u')
    let mut status := 0
    let mut place : LayoutPlace := {}
    for a in g.sources do
      match ← contents a with
      | .ok text =>
        if isBare then status := max status (← print name text)
        else
          let (laid, next) := (Layout.of g).lay place text
          place := next
          status := max status (← print name laid)
      | .error e => status ← unread name a e
    return status

structure Extent where
  bytes : Bool := false
  count : Nat := 10
  opposite : Bool := false

def unitPowers : List (Char × Nat) :=
  [('k', 1), ('K', 1), ('m', 2), ('M', 2), ('G', 3), ('T', 4), ('P', 5), ('E', 6), ('Z', 7),
    ('Y', 8), ('R', 9), ('Q', 10)]

def unit? (text : List Char) : Option Nat :=
  match text with
  | [] => some 1
  | ['b'] => some 512
  | c :: rest =>
    match unitPowers.lookup c, String.ofList rest with
    | some n, "" | some n, "iB" => some (Nat.pow 1024 n)
    | some n, "B" | some n, "D" => some (Nat.pow 1000 n)
    | _, _ => none

inductive CountFlaw where
  | notOne
  | tooLarge
  deriving DecidableEq

def sized (text : List Char) : Except CountFlaw Nat :=
  let text := text.dropWhile Number.isBlank
  let (n, rest) := match Number.read? 10 text with
    | some (false, n, rest) => (some n, rest)
    | some (true, _, rest) => (none, rest)
    | none => (if text.isEmpty then none else some 1, text)
  match n, unit? rest with
  | some n, some size =>
    if n * size < Number.wordCount then .ok (n * size) else .error .tooLarge
  | _, _ => .error .notOne

def extent? (sign : Char) (g : Given) : Except Bytes Extent :=
  let read (bytes : Bool) (text : Bytes) : Except Bytes Extent :=
    let number : Bytes := if text.head? = some (byteOf '-') then text.drop 1 else text
    let flaw := "invalid number of " ++ (if bytes then "bytes" else "lines") ++ ": " ++
      cited number
    match sized number.characters with
    | .ok n => .ok ⟨bytes, n, text.head? = some (byteOf sign)⟩
    | .error .notOne => .error flaw
    | .error .tooLarge => .error (flaw ++ ": Value too large for defined data type")
  match g.options.reverse.find? fun o ↦ o.1 = 'n' || o.1 = 'c' with
  | some ('c', text) => read true text
  | some (_, text) => read false text
  | none => .ok {}

/-- The old way to ask for a beginning: an option of digits and letters. An unknown letter is
refused. -/
def modernHead (words : List Bytes) : Except Char (List Bytes) :=
  match words with
  | name :: first :: rest =>
    match first.characters with
    | '-' :: c :: cs =>
      if !c.isDigit then .ok words
      else
        let digits := (c :: cs).takeWhile Char.isDigit
        let letters := (c :: cs).drop digits.length
        match letters.find? (!"cbkmlqvz".toList.contains ·) with
        | some c => .error c
        | none =>
          let counts := letters.filter fun c ↦ "cbkml".toList.contains c
          let unit := (counts.filter (· ≠ 'l')).getLast?
          let isBytes := (counts.getLast?).any (· ≠ 'l')
          let count := (if isBytes then ['-', 'c'] else ['-', 'n']) ++ digits ++
            (unit.toList.filter (· ≠ 'c'))
          let others := letters.filter fun c ↦ "qvz".toList.contains c
          .ok (name :: Bytes.ofCharacters count ::
            others.map (fun c ↦ Bytes.ofCharacters ['-', c]) ++ rest)
    | _ => .ok words
  | _ => .ok words

/-- The old way to ask for an end: a sign, digits and a letter before at most one operand. -/
def modernTail (words : List Bytes) : List Bytes :=
  match words with
  | name :: first :: rest =>
    let isAlone := match rest with
      | [] => true
      | [a] => a.head? ≠ some (byteOf '-') || a.length = 1
      | a :: rest => a = ("--" : Bytes) && rest.length ≤ 1
    match isAlone, first.characters with
    | true, sign :: cs =>
      let digits := cs.takeWhile Char.isDigit
      let count (letter : Char) (more : List Char) : List Bytes :=
        let number := if digits.isEmpty then ['1', '0'] else digits
        name :: Bytes.ofCharacters (['-', letter] ++ (if sign = '+' then ['+'] else []) ++ number ++
          more) :: rest
      if sign ≠ '+' && (sign ≠ '-' || digits.isEmpty) then words
      else match cs.drop digits.length with
        | [] | ['l'] => count 'n' []
        | ['c'] => count 'c' []
        | ['b'] => count 'c' ['b']
        | _ => words
    | _, _ => words
  | _ => words

def showParts (sign : Char) (part : Extent → List Bytes → List Bytes) (words : List Bytes) :
    Act Nat :=
  let options : Options := {
    letters := [('n', true), ('c', true), ('q', false), ('v', false), ('z', false)]
    names := [("lines", 'n'), ("bytes", 'c'), ("quiet", 'q'), ("silent", 'q'), ("verbose", 'v'),
      ("zero-terminated", 'z')] }
  given options words fun name g ↦ do
    match extent? sign g with
    | .error text => fault name text
    | .ok extent =>
      let headed := match (g.options.filter fun o ↦ o.1 = 'q' || o.1 = 'v').getLast? with
        | some o => o.1 = 'v'
        | none => 1 < g.operands.length
      let units (text : Bytes) : List Bytes :=
        if extent.bytes then text.map ([·]) else piecesOf (if g.has 'z' then 0 else 0x0A) text
      let mut status := 0
      let mut isFirst := true
      for a in g.sources do
        let shown : Bytes := if a = ("-" : Bytes) then "standard input" else a
        let heading : Bytes := if !headed then []
          else (if isFirst then "" else "\n") ++ "==> " ++ shown ++ " <==\n"
        match ← contents a with
        | .ok text =>
          status := max status (← print name (heading ++ (part extent (units text)).flatten))
          isFirst := false
        | .error .isDirectory =>
          let _ ← print name heading
          status ← fault name ("error reading " ++ quoted shown ++ ": " ++ describe .isDirectory)
          isFirst := false
        | .error e =>
          status ← fault name
            ("cannot open " ++ quoted shown ++ " for reading: " ++ describe e)
      return status

def head (words : List Bytes) : Act Nat :=
  match modernHead words with
  | .error c => misuse (words.headD []) 1 ("invalid trailing option -- " ++ String.ofList [c])
  | .ok words =>
    showParts '-' (fun x us ↦ us.take (if x.opposite then us.length - x.count else x.count)) words

def tail (words : List Bytes) : Act Nat :=
  showParts '+'
    (fun x us ↦ us.drop (if x.opposite then x.count - 1 else us.length - x.count))
    (modernTail words)

def tally (text : Bytes) : List Nat :=
  let isBlank (b : UInt8) : Bool := b = 0x20 || (0x09 ≤ b && b ≤ 0x0D)
  let start (r : Nat × Bool) (b : UInt8) : Nat × Bool :=
    (if r.2 && !isBlank b then r.1 + 1 else r.1, isBlank b)
  [text.count 0x0A, (text.foldl start (0, true)).1, text.length]

def aligned (width : Nat) (n : Nat) : String :=
  let digits := toString n
  String.ofList (List.replicate (width - digits.length) ' ') ++ digits

def wordCount (words : List Bytes) : Act Nat :=
  let names := [("lines", 'l'), ("words", 'w'), ("bytes", 'c'), ("chars", 'm')]
  given (flags "lwcmL" names) words fun name g ↦ do
    let all := !(g.has 'l' || g.has 'w' || g.has 'c' || g.has 'm')
    let chosen (counts : List Nat) : List Nat :=
      (counts.zip [all || g.has 'l', all || g.has 'w', all || g.has 'c' || g.has 'm']).filterMap
        fun x ↦ if x.2 then some x.1 else none
    let operands := g.sources
    let mut status := 0
    let mut rows : List (List Nat × Bytes) := []
    let mut total := [0, 0, 0]
    let mut sized := true
    for a in operands do
      if a.isEmpty then
        status ← fault name "invalid zero-length file name"
        continue
      if let .ok (_, e) := ← found true a then
        if e = .directory then sized := false
      if a = ("-" : Bytes) then
        sized := sized && (match (← get).channel? 0 with
          | some (.file _) => true
          | _ => false)
      match ← contents a with
      | .ok text =>
        rows := rows ++ [(tally text, a)]
        total := List.zipWith (· + ·) total (tally text)
      | .error e =>
        status ← fault name (shown a ++ ": " ++ describe e)
        if e = .isDirectory then rows := rows ++ [([0, 0, 0], a)]
    let isSingle := operands.length = 1 && (chosen [0, 0, 0]).length = 1
    let widest := (toString (total.getLastD 0)).length
    let width := if isSingle then 1 else if sized then widest else 7
    let sum : List (List Nat × Bytes) := if operands.length = 1 then [] else [(total, "total")]
    let line (row : List Nat × Bytes) : Bytes :=
      let label : Bytes := if g.operands.isEmpty then [] else " " ++ row.2
      String.intercalate " " ((chosen row.1).map (aligned width)) ++ label ++ "\n"
    return max status (← print name ((rows ++ sum).flatMap line))

def tee (words : List Bytes) : Act Nat :=
  given (flags "aip" [("append", 'a')]) words fun name g ↦ do
    match ← readAll 0 with
    | .error e => fault name ("read error: " ++ describe e)
    | .ok text =>
      let p ← get
      let mode := 0o666 &&& (0o777 ^^^ p.mask)
      let status ← each g.operands fun a ↦ do
        if let .ok (_, .stream n) := ← found true a then
          writeBytes n text
          return 0
        changeOrFault name (shown a) fun t cwd ↦
          let old := if g.has 'a' then (t.contents cwd a).toOption.getD [] else []
          t.putFile cwd a mode (old ++ text)
      return max status (← print name text)

end IngestCheck.Host.Toolbox
