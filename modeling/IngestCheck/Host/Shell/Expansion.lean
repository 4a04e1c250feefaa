import IngestCheck.Host.Shell.Arithmetic
import IngestCheck.Host.Shell.Cells

namespace IngestCheck.Host.Shell

/-- Mark what comes from an expansion as a region to be cut into fields, unless it is quoted. -/
def expanded (m : Mode) (cells : List Cell) : List Cell :=
  if m.quoted then cells else Cell.region false cells

def expandParameter (m : Mode) (name : Bytes) (form : Form) (orEmpty isBare : Bool)
    (word : Mode → Run (List Cell)) : Run (List Cell) := do
  if form = .malformed then fail "Bad substitution"
  let value := parameter? (← get) m name
  let present := value.any fun v ↦ !orEmpty || 0 < v.length
  let region (cells : List Cell) : Run (List Cell) := do
    let separated := name = ("@" : Bytes) && !(← get).arguments.isEmpty
    return if m.quoted && separated then Cell.region true cells else expanded m cells
  let shown (value : Option Value) : Run (List Cell) :=
    match value with
    | some v => region (v.cells m)
    | none => return []
  match form with
  | .default => if present then shown value else word { m with nested := true, tilde := true }
  | .alternative => if present then word { m with nested := true, tilde := true } else return []
  | .assign =>
    if present then shown value
    else
      assign name (Cell.text (← word { tilde := true }))
      shown (parameter? (← get) m name)
  | .demand =>
    if present then shown value
    else
      let text := Cell.text (← word { tilde := true })
      let unset : Bytes := if orEmpty then "parameter not set or null" else "parameter not set"
      fail (name ++ ": " ++ if isBare then unset else text)
  | _ =>
    if !present && (← get).has 'u' then fail (name ++ ": parameter not set")
    match form, value with
    | .plain, _ => shown value
    | .length, _ =>
      return expanded m (cellsOf m (decimal ((value.map Value.length).getD 0)))
    | _, none => return []
    | _, some v =>
      let pattern := Cell.pattern (← word Mode.label)
      region (trim form pattern (v.cells m))

def expandArithmetic (m : Mode) (text : Bytes) : Run (List Cell) := do
  let (result, assigned) := Arithmetic.evaluate (← get).value? text
  for (name, n) in assigned do assign name (Bytes.ofString (toString n))
  match result with
  | .ok n => return expanded m (cellsOf m (Bytes.ofString (toString n)))
  | .error (.illegalNumber number) => fail ("Illegal number: " ++ number)
  | .error (.complaint complaint) =>
    let quote : Bytes := "\""
    fail ("arithmetic expression: " ++ Bytes.ofString complaint ++ ": " ++ quote ++ text ++ quote)

structure Position where
  inside : Bool := false
  atStart : Bool := true
  assigned : Bool := false

def Position.mode (p : Position) (m : Mode) : Mode := { m with quoted := m.quoted || p.inside }

def Position.text (p : Position) (s : State) (m : Mode) (isLast : Bool) (bytes : Bytes) :
    List Cell :=
  let cells := textCells s m isLast (bytes.length + 1) (p.atStart && m.tilde) p.assigned bytes
  if m.nested && !m.quoted && !p.inside then Cell.region false cells else cells

def Position.afterText (p : Position) (m : Mode) (bytes : Bytes) : Position :=
  { p with atStart := false, assigned := p.assigned || (m.assigns && bytes.contains (byteOf '=')) }

mutual

def pieceCells (substitute : Tree → Run Bytes) (m : Mode) : Piece → Run (List Cell)
  | .text escaped bytes => return Cell.ofBytes escaped bytes
  | .quote => return [.quote]
  | .parameter name form orEmpty word =>
    expandParameter m name form orEmpty word.isEmpty fun m ↦ wordCells substitute m {} word
  | .command body => do return expanded m (cellsOf m (← substitute body))
  | .arithmetic expression => do
    expandArithmetic m (Cell.text (← wordCells substitute {} {} expression))

/-- The cells of a word from a position on. All the parameters in quotes of their own are as many
fields, and none without parameters. -/
def wordCells (substitute : Tree → Run Bytes) (m : Mode) (p : Position) :
    List Piece → Run (List Cell)
  | [] => return []
  | .quote :: rest => do
    match p.inside, rest with
    | false, .parameter [0x40] .plain false [] :: .quote :: rest =>
      let cells ← expandParameter { m with quoted := true } [0x40] .plain false true
        fun _ ↦ return []
      return cells ++ (← wordCells substitute m { p with atStart := false } rest)
    | _, rest =>
      let p := { p with inside := !p.inside, atStart := false }
      return .quote :: (← wordCells substitute m p rest)
  | .text false bytes :: rest => do
    let cells := p.text (← get) m rest.isEmpty bytes
    return cells ++ (← wordCells substitute m (p.afterText m bytes) rest)
  | piece :: rest => do
    let cells ← pieceCells substitute (p.mode m) piece
    return cells ++ (← wordCells substitute m { p with atStart := false } rest)

end

def expandText (substitute : Tree → Run Bytes) (m : Mode) (word : Word) : Run Bytes := do
  return Cell.text (← wordCells substitute m {} word)

def expandPattern (substitute : Tree → Run Bytes) (word : Word) : Run (List Char) := do
  return Cell.pattern (← wordCells substitute Mode.label {} word)

def expandFields (substitute : Tree → Run Bytes) (word : Word) : Run (List Bytes) := do
  let cells ← wordCells substitute Mode.arguments {} word
  let s ← get
  let fields := fieldsOf s.separators none cells
  if s.has 'f' then return fields.map Cell.text
  return fields.flatMap (pathsOf s.process.host.files s.process.directory)

/-- Expand words until there is a field. The words left come with the fields. -/
def firstFields (substitute : Tree → Run Bytes) : List Word → Run (List Bytes × List Word)
  | [] => return ([], [])
  | word :: rest => do
    let fields ← expandFields substitute word
    if fields.isEmpty then firstFields substitute rest else return (fields, rest)

end IngestCheck.Host.Shell
