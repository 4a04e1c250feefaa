import IngestCheck.Host.Shell.Condition
import IngestCheck.Host.Shell.Format
import IngestCheck.Host.Toolbox.Basic

namespace IngestCheck.Host.Toolbox

def digitsOf (base most : Nat) (text : List Char) : Option (Char × List Char) :=
  let digits := (text.take most).takeWhile (Number.isDigitOf base)
  if digits.isEmpty then none
  else some (Char.ofNat (Number.valueOf base digits % 256), text.drop digits.length)

def unescape : Nat → List Char → List Char × Bool
  | 0, text => (text, false)
  | _, [] => ([], false)
  | fuel + 1, '\\' :: rest =>
    let continued (r : Char × List Char) : List Char × Bool :=
      let more := unescape fuel r.2
      (r.1 :: more.1, more.2)
    match rest with
    | 'c' :: _ => ([], true)
    | '0' :: more => continued ((digitsOf 8 3 more).getD ('\x00', more))
    | 'x' :: more => continued ((digitsOf 16 2 more).getD ('\\', rest))
    | c :: more =>
      match Shell.Format.escapeLetters.lookup c with
      | some e => continued (e, more)
      | none => continued ((digitsOf 8 3 rest).getD ('\\', rest))
    | [] => (['\\'], false)
  | fuel + 1, c :: rest =>
    let r := unescape fuel rest
    (c :: r.1, r.2)

def echoOptions (bare escapes : Bool) : List Bytes → Bool × Bool × List Bytes
  | word :: rest =>
    match word.characters with
    | '-' :: c :: cs =>
      if (c :: cs).all fun c ↦ c = 'n' || c = 'e' || c = 'E' then
        let step (e : Bool) (c : Char) : Bool := c = 'e' || (e && c ≠ 'E')
        echoOptions (bare || (c :: cs).contains 'n') ((c :: cs).foldl step escapes) rest
      else (bare, escapes, word :: rest)
    | _ => (bare, escapes, word :: rest)
  | [] => (bare, escapes, [])

def echo (words : List Bytes) : Act Nat := do
  let (bare, escapes, rest) := echoOptions false false (words.drop 1)
  let text : Bytes := List.intercalate [byteOf ' '] rest
  let (text, cut) := if escapes then
      let r := unescape (text.length + 1) text.characters
      (Bytes.ofCharacters r.1, r.2)
    else (text, false)
  print (words.headD []) (text ++ if bare || cut then [] else [0x0A])

def formatWarning : Shell.Format.Warning → Bytes
  | .noNumber text => cited text ++ ": expected a numeric value"
  | .notOnly text => cited text ++ ": value not completely converted"
  | .outOfRange text => cited text ++ ": Numerical result out of range"

def formatFailure : Shell.Format.Failure → Bytes
  | .noLetter => "%: invalid conversion specification"
  | .badDirective text => "%" ++ text ++ ": invalid conversion specification"

def printf (words : List Bytes) : Act Nat := do
  let name := words.headD []
  let arguments := words.drop 1
  match if arguments.head? = some ("--" : Bytes) then arguments.drop 1 else arguments with
  | [] => misuse name 1 "missing operand"
  | format :: rest =>
    let printed := Shell.Format.print format rest
    let mut status ← print name printed.output
    for w in printed.warnings do status ← fault name (formatWarning w)
    if let some f := printed.failure then return ← fault name (formatFailure f)
    match rest with
    | a :: _ =>
      if !format.contains (byteOf '%') then
        let _ ← fault name ("warning: ignoring excess arguments, starting with " ++ cited a)
    | [] => pure ()
    return status

def lastName (path ending : Bytes) : Bytes :=
  let path := bare path
  let name := if path = [Path.slash] then path else FileTree.lastPiece path
  if ending.length < name.length && ending.isSuffixOf name then
    name.take (name.length - ending.length)
  else name

def basename (words : List Bytes) : Act Nat :=
  let options : Options := {
    letters := [('a', false), ('z', false), ('s', true)]
    names := [("multiple", 'a'), ("suffix", 's')], anywhere := false }
  given options words fun name g ↦ do
    let ending := (g.argument? 's').getD []
    match g.operands with
    | [] => misuse name 1 "missing operand"
    | a :: rest =>
      if g.has 'a' || g.has 's' then
        print name ((a :: rest).flatMap fun path ↦ lastName path ending ++ [0x0A])
      else match rest with
        | [] => print name (lastName a [] ++ [0x0A])
        | [ending] => print name (lastName a ending ++ [0x0A])
        | _ :: extra :: _ => misuse name 1 ("extra operand " ++ cited extra)

def upper (path : Path) : Path :=
  let path := bare path
  let lead := path.take (path.length - (FileTree.lastPiece path).length)
  if lead.isEmpty then Path.dot else bare lead

def dirname (words : List Bytes) : Act Nat :=
  given (flags "z" []) words fun name g ↦ do
    if g.operands.isEmpty then return ← misuse name 1 "missing operand"
    print name (g.operands.flatMap fun path ↦
      (if path = [Path.slash] then path else upper path) ++ [0x0A])

def conditionFlaw : Shell.Condition.Flaw → Bytes
  | .noNumber word => "invalid integer " ++ cited word
  | .noOperand operator => operator ++ ": argument expected"
  | .notClosed => "closing paren expected"
  | .unexpected word => word ++ ": unexpected operator"

def test (words : List Bytes) : Act Nat := do
  let name := words.headD []
  let bracketed := FileTree.lastPiece name = ("[" : Bytes)
  let arguments := words.drop 1
  if bracketed && arguments.getLast? ≠ some ("]" : Bytes) then
    let _ ← fault name "missing ']'"
    return 2
  let p ← get
  match Shell.Condition.holds? ⟨p.host.files, p.directory, fun _ ↦ false⟩
      (if bracketed then arguments.dropLast else arguments) with
  | .ok true => return 0
  | .ok false => return 1
  | .error flaw =>
    let _ ← fault name (conditionFlaw flaw)
    return 2

end IngestCheck.Host.Toolbox
