import IngestCheck.Host.Walk
import IngestCheck.Text.Number

namespace IngestCheck.Host.Shell.Condition

inductive Kind where
  | unary
  | binary
  | and
  | or
  | not
  | opening
  | closing
  deriving DecidableEq

def unaryWords : List String := [
  "-r", "-w", "-x", "-e", "-f", "-d", "-c", "-b", "-p", "-u", "-g", "-k", "-s", "-t", "-z", "-n",
  "-h", "-O", "-G", "-L", "-S"]

def binaryWords : List String := [
  "=", "!=", "<", ">", "-eq", "-ne", "-ge", "-gt", "-le", "-lt", "-nt", "-ot", "-ef"]

def vocabulary : List (Bytes × Kind) :=
  (unaryWords.map fun w ↦ (Bytes.ofString w, Kind.unary)) ++
  (binaryWords.map fun w ↦ (Bytes.ofString w, Kind.binary)) ++
  ([("-a", .and), ("-o", .or), ("!", .not), ("(", .opening), (")", .closing)] :
    List (Bytes × Kind))

def kind? (word : Bytes) : Option Kind := vocabulary.lookup word

/-- What the first of some words is here; nothing is an operand or the end. A unary operator is an
operand itself where nothing follows, or where a binary one does. -/
def meaning (words : List Bytes) : Option Kind :=
  match words with
  | [] => none
  | word :: rest => match kind? word with
    | some .unary => match rest with
      | [] => none
      | [_] => some .unary
      | next :: _ => if kind? next = some .binary then none else some .unary
    | some .opening => if rest.isEmpty then none else some .opening
    | k => k

structure View where
  files : FileTree
  directory : Place
  isTerminal : Nat → Bool := fun _ ↦ false

inductive Flaw where
  | noNumber (word : Bytes)
  | noOperand (operator : String)
  | notClosed
  | unexpected (word : Bytes)
  deriving DecidableEq, Repr

abbrev Test := ExceptT Flaw (StateM (List Bytes))

def number (word : Bytes) : Test Int :=
  match Number.whole? 10 word with
  | some n => return n
  | none => throw (.noNumber word)

def holdsOfFile (v : View) (operator : String) (path : Path) : Bool :=
  let entry : Option Entry := (v.files.find true v.directory path).toOption.map (·.2)
  let isLink := match v.files.find false v.directory path with
    | .ok (_, .link _) => true
    | _ => false
  match operator with
  | "-r" | "-w" | "-e" | "-O" | "-G" => entry.isSome
  | "-x" => match entry with
    | some (.file mode _) => mode &&& 0o111 ≠ 0
    | some (.tool _) | some .directory => true
    | _ => false
  | "-f" => match entry with
    | some (.file ..) | some (.tool _) => true
    | _ => false
  | "-d" => entry = some .directory
  | "-c" => entry = some .null
  | "-h" | "-L" => isLink
  | "-s" => match entry with
    | some (.file _ content) => !content.isEmpty
    | some .directory | some (.tool _) => true
    | _ => false
  | "-u" | "-g" | "-k" => match entry with
    | some (.file mode _) =>
      mode &&& (if operator = "-u" then 0o4000 else if operator = "-g" then 0o2000 else 0o1000) ≠ 0
    | _ => false
  | _ => false

def compare (v : View) (operator : String) (a b : Bytes) : Test Bool := do
  let numbers (f : Int → Int → Bool) : Test Bool := do
    let x ← number a
    let y ← number b
    return f x y
  match operator with
  | "=" => return a = b
  | "!=" => return a ≠ b
  | "<" => return decide (a < b)
  | ">" => return decide (b < a)
  | "-eq" => numbers fun x y ↦ x = y
  | "-ne" => numbers fun x y ↦ x ≠ y
  | "-ge" => numbers fun x y ↦ y ≤ x
  | "-gt" => numbers fun x y ↦ y < x
  | "-le" => numbers fun x y ↦ x ≤ y
  | "-lt" => numbers fun x y ↦ x < y
  | "-ef" =>
    match v.files.find true v.directory a, v.files.find true v.directory b with
    | .ok (x, _), .ok (y, _) => return x = y
    | _, _ => return false
  | _ => return false

mutual

def disjunction (v : View) : Nat → Test Bool
  | 0 => return false
  | fuel + 1 => do
    let a ← conjunction v fuel
    if meaning ((← get).drop 1) = some .or then
      modify (·.drop 2)
      let b ← disjunction v fuel
      return a || b
    else return a

def conjunction (v : View) : Nat → Test Bool
  | 0 => return false
  | fuel + 1 => do
    let a ← negation v fuel
    if meaning ((← get).drop 1) = some .and then
      modify (·.drop 2)
      let b ← conjunction v fuel
      return a && b
    else return a

def negation (v : View) : Nat → Test Bool
  | 0 => return false
  | fuel + 1 => do
    let words ← get
    if meaning words = some .not then
      match words.drop 1 with
      | [] => return true
      | rest =>
        set rest
        return !(← negation v fuel)
    else primary v fuel

/-- A condition that is no combination. What has been read ends with the first of the words left. -/
def primary (v : View) : Nat → Test Bool
  | 0 => return false
  | fuel + 1 => do
    let words ← get
    match words with
    | [] => return false
    | word :: rest =>
      match meaning words with
      | some .opening =>
        set rest
        if meaning rest = some .closing then return false
        let a ← disjunction v fuel
        modify (·.drop 1)
        if meaning (← get) ≠ some .closing then throw .notClosed
        return a
      | some .unary =>
        let operator := Bytes.shown word
        match rest with
        | [] => throw (.noOperand operator)
        | operand :: _ =>
          set rest
          if operator = "-z" then return operand.isEmpty
          if operator = "-n" then return !operand.isEmpty
          if operator = "-t" then return v.isTerminal (← number operand).toNat
          return holdsOfFile v operator operand
      | _ =>
        if meaning rest = some .binary then
          let operator := Bytes.shown (rest.headD [])
          match rest.drop 1 with
          | [] => throw (.noOperand operator)
          | operand :: _ =>
            set (rest.drop 1)
            compare v operator word operand
        else return !word.isEmpty

end

def read (v : View) (words : List Bytes) : Except Flaw Bool :=
  let whole : Test Bool := do
    let a ← disjunction v (4 * words.length + 8)
    match ← get with
    | word :: _ :: _ => throw (.unexpected word)
    | _ => return a
  (whole.run.run words).1

def readBinary (v : View) (a operator b : Bytes) : Except Flaw Bool :=
  (compare v (Bytes.shown operator) a b).run.run [] |>.1

/-- Whether some words hold as a condition. Three words around a binary operator are always a
comparison; with three or four words, parentheses around the others and a negation in front come
first. -/
def holds? (v : View) : List Bytes → Except Flaw Bool
  | [] => .ok false
  | [a, b, c] =>
    if kind? b = some .binary then readBinary v a b c
    else if a = "(" ∧ c = ")" then read v [b]
    else if a = "!" then negate (holds? v [b, c])
    else read v [a, b, c]
  | [a, b, c, d] =>
    if a = "(" ∧ d = ")" then read v [b, c]
    else if a = "!" then negate (holds? v [b, c, d])
    else read v [a, b, c, d]
  | words => read v words
where
  negate (r : Except Flaw Bool) : Except Flaw Bool := r.map (!·)

end IngestCheck.Host.Shell.Condition
