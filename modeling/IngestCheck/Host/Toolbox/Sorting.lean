import IngestCheck.Host.Toolbox.Basic
import IngestCheck.Text.Number

namespace IngestCheck.Host.Toolbox

def piecesOf (stop : UInt8) : Bytes → List Bytes
  | [] => []
  | b :: rest =>
    if b = stop then [b] :: piecesOf stop rest
    else match piecesOf stop rest with
      | first :: more =>
        (b :: first) :: more
      | [] => [[b]]

def isFieldBlank (b : UInt8) : Bool := b = 0x20 || b = 0x09 || b = 0x0A

structure Manner where
  afterBlanks : Bool := false
  plain : Bool := false
  visible : Bool := false
  caseless : Bool := false
  numeric : Bool := false
  downward : Bool := false
  deriving DecidableEq

namespace Manner

def with? (m : Manner) : Char → Option Manner
  | 'b' => some { m with afterBlanks := true }
  | 'd' => some { m with plain := true }
  | 'f' => some { m with caseless := true }
  | 'i' => some { m with visible := true }
  | 'n' => some { m with numeric := true }
  | 'r' => some { m with downward := true }
  | _ => none

def conflict? (m : Manner) : Option String :=
  if m.numeric && (m.plain || m.visible) then
    some ((if m.plain then "d" else "") ++ (if m.caseless then "f" else "") ++
      (if m.plain then "" else "i") ++ "n")
  else none

def counted (m : Manner) (text : Bytes) : Bytes :=
  let isKept (b : UInt8) : Bool :=
    if m.plain then (Char.ofNat b.toNat).isAlphanum || isFieldBlank b
    else !m.visible || (0x20 ≤ b && b ≤ 0x7E)
  let folded (b : UInt8) : UInt8 :=
    if m.caseless && byteOf 'a' ≤ b && b ≤ byteOf 'z' then b - 0x20 else b
  (text.filter isKept).map folded

end Manner

/-- The decimal number that a text starts with, blanks aside: whether it is below zero, and its
digits before and after the point. -/
def decimalOf (text : Bytes) : Bool × List Char × List Char :=
  let text := text.characters.dropWhile Number.isBlank
  let (negative, text) := match text with
    | '-' :: rest => (true, rest)
    | text => (false, text)
  let whole := text.takeWhile Char.isDigit
  match text.drop whole.length with
  | '.' :: rest => (negative, whole, rest.takeWhile Char.isDigit)
  | _ => (negative, whole, [])

def compareNumbers (a b : Bytes) : Ordering :=
  let (x, y) := (decimalOf a, decimalOf b)
  let places := max x.2.2.length y.2.2.length
  let value (n : Bool × List Char × List Char) : Int :=
    let digits := n.2.1 ++ n.2.2 ++ List.replicate (places - n.2.2.length) '0'
    let magnitude : Int := Number.valueOf 10 digits
    if n.1 then -magnitude else magnitude
  compare (value x) (value y)

def compareBytes (a b : Bytes) : Ordering :=
  if a < b then .lt else if a = b then .eq else .gt

def Manner.compare (m : Manner) (a b : Bytes) : Ordering :=
  let (a, b) := (m.counted a, m.counted b)
  let order := if m.numeric then compareNumbers a b else compareBytes a b
  if m.downward then order.swap else order

/-- A place in a line: fields to pass over, and then characters, after blanks or not. -/
structure FieldPlace where
  fields : Nat := 0
  characters : Nat := 0
  afterBlanks : Bool := false
  deriving DecidableEq

structure Key where
  manner : Manner := {}
  start : FieldPlace := {}
  stop : Option FieldPlace := none

/-- What follows some fields of a line. A separator ends a field; without one, blanks begin it. -/
def afterFields (separator : Option UInt8) : Nat → Bytes → Bytes
  | 0, line => line
  | _, [] => []
  | n + 1, line =>
    match separator with
    | some s => afterFields separator n ((line.dropWhile (· ≠ s)).drop 1)
    | none =>
      afterFields separator n ((line.dropWhile isFieldBlank).dropWhile (!isFieldBlank ·))

def FieldPlace.rest (separator : Option UInt8) (p : FieldPlace) (line : Bytes) : Bytes :=
  let line := afterFields separator p.fields line
  (if p.afterBlanks then line.dropWhile isFieldBlank else line).drop p.characters

namespace Key

/-- What follows the part of a line that counts. A part that ends with a whole field does not
include the separator behind it. -/
def beyond (separator : Option UInt8) (key : Key) (line : Bytes) : Bytes :=
  match key.stop, separator with
  | none, _ => []
  | some p, some s =>
    if p.characters = 0 then (afterFields separator p.fields line).dropWhile (· ≠ s)
    else p.rest separator line
  | some p, none =>
    if p.characters = 0 then afterFields none (p.fields + 1) line else p.rest none line

def part (separator : Option UInt8) (key : Key) (line : Bytes) : Bytes :=
  let rest := { key.start with afterBlanks := key.manner.afterBlanks }.rest separator line
  rest.take (rest.length - (key.beyond separator line).length)

def compare (separator : Option UInt8) (key : Key) (a b : Bytes) : Ordering :=
  key.manner.compare (key.part separator a) (key.part separator b)

def count (what : String) (text : List Char) : Except Bytes (Nat × List Char) :=
  let flaw := what ++ ": invalid count at start of " ++ cited (Bytes.ofCharacters text)
  match Number.read? 10 text with
  | some (false, n, rest) => .ok (n, rest)
  | _ => .error flaw

def letters (m : Manner) : List Char → Manner × List Char
  | [] => (m, [])
  | c :: rest =>
    match m.with? c with
    | some m => letters m rest
    | none => (m, c :: rest)

/-- Read a key: a place, letters, and perhaps a comma with another place and letters. Letters of
the second place tell of the whole key, blanks aside. -/
def read (text : Bytes) : Except Bytes Key := do
  let refused (what : String) : Bytes := what ++ ": invalid field specification " ++ cited text
  let (field, rest) ← count "invalid number at field start" text.characters
  if field = 0 then throw (refused "field number is zero")
  let (start, rest) ← (match rest with
    | '.' :: rest => do
      let (n, rest) ← count "invalid number after '.'" rest
      if n = 0 then throw (refused "character offset is zero")
      return ({ fields := field - 1, characters := n - 1 }, rest)
    | rest => return ({ fields := field - 1 }, rest) : Except Bytes (FieldPlace × List Char))
  let (manner, rest) := letters {} rest
  let (key, rest) ← (match rest with
    | ',' :: rest => do
      let (field, rest) ← count "invalid number after ','" rest
      if field = 0 then throw (refused "field number is zero")
      let (characters, rest) ← (match rest with
        | '.' :: rest => count "invalid number after '.'" rest
        | rest => return (0, rest) : Except Bytes (Nat × List Char))
      let (m, rest) := letters { manner with afterBlanks := false } rest
      let stop : FieldPlace := ⟨field - 1, characters, m.afterBlanks⟩
      return ({ manner := { m with afterBlanks := manner.afterBlanks }, start, stop }, rest)
    | rest => return ({ manner, start }, rest) : Except Bytes (Key × List Char))
  if rest.isEmpty then return key else throw (refused "stray character in field spec")

/-- A key that says nothing of its manner is compared as all lines are. -/
def inherit (m : Manner) (key : Key) : Key :=
  if key.manner = {} && !key.stop.any (·.afterBlanks) then
    { key with
      manner := m, stop := key.stop.map fun p ↦ { p with afterBlanks := m.afterBlanks } }
  else key

end Key

structure Sorting where
  keys : List Key := []
  separator : Option UInt8 := none
  stable : Bool := false
  unique : Bool := false
  /-- Whether lines that only differ outside their keys are put in falling order. -/
  downward : Bool := false

namespace Sorting

def compareKeys (s : Sorting) (a b : Bytes) : Ordering :=
  s.keys.foldl (fun order key ↦ order.then (key.compare s.separator a b)) .eq

def compare (s : Sorting) (a b : Bytes) : Ordering :=
  let order := compareBytes a b
  if s.keys.isEmpty then
    if s.downward then order.swap else order
  else if s.stable || s.unique then s.compareKeys a b
  else (s.compareKeys a b).then (if s.downward then order.swap else order)

def sorted (s : Sorting) (isMerge : Bool) (texts : List (List Bytes)) : List Bytes :=
  let before (a b : Bytes) : Bool := (s.compare a b).isLE
  let lines := if isMerge then texts.foldl (fun all text ↦ all.merge text before) []
    else texts.flatten.mergeSort before
  let step (kept : List Bytes) (line : Bytes) : List Bytes :=
    match kept with
    | last :: _ => if s.compare last line = .eq then kept else line :: kept
    | [] => [line]
  if s.unique then (lines.foldl step []).reverse else lines

def disorder? (s : Sorting) (lines : List Bytes) : Option (Nat × Bytes) :=
  let isWrong (x : (Bytes × Bytes) × Nat) : Bool :=
    match s.compare x.1.1 x.1.2 with
    | .gt => true
    | .eq => s.unique
    | .lt => false
  ((lines.zip (lines.drop 1)).zipIdx.find? isWrong).map fun x ↦ (x.2 + 2, x.1.2)

def read (g : Given) : Except Bytes Sorting := do
  let manner := g.options.foldl (fun (m : Manner) o ↦ (m.with? o.1).getD m) {}
  let keys ← (g.options.filter (·.1 = 'k')).mapM fun o ↦ Key.read o.2
  let separators ← (g.options.filter (·.1 = 't')).mapM fun o ↦ (match o.2 with
    | [] => .error "empty tab"
    | [b] => return b
    | text =>
      if text = ("\\0" : Bytes) then return 0
      else .error ("multi-character tab " ++ cited text) : Except Bytes UInt8)
  if separators.any (separators.head? ≠ some ·) then
    .error "incompatible tabs"
  let keys := if keys.isEmpty && manner ≠ { downward := manner.downward } then [{ manner }]
    else keys.map (Key.inherit manner)
  if let some letters := keys.findSome? fun key ↦ key.manner.conflict? then
    .error ("options '-" ++ letters ++ "' are incompatible")
  return {
    keys, separator := separators.head?, stable := g.has 's', unique := g.has 'u'
    downward := manner.downward }

end Sorting

def sortedSources (name : Bytes) (stop : UInt8) (paths : List Path) :
    Act (Except Nat (List (List Bytes))) := do
  let mut texts : List (List Bytes) := []
  for a in paths do
    match ← contents a with
    | .ok text =>
      let lines := (piecesOf stop text).map fun l ↦
        if l.getLast? = some stop then l.dropLast else l
      texts := texts ++ [lines]
    | .error e =>
      let _ ← fault name ("read failed: " ++ shown a ++ ": " ++ describe e)
      return .error 2
  return .ok texts

def sort (words : List Bytes) : Act Nat :=
  let options : Options := {
    letters := "bdfinrsuzmcC".toList.map (·, false) ++ "kotST".toList.map (·, true)
    names := [("numeric-sort", 'n'), ("reverse", 'r'), ("unique", 'u'), ("output", 'o'),
      ("key", 'k'), ("stable", 's'), ("ignore-case", 'f'), ("ignore-leading-blanks", 'b'),
      ("dictionary-order", 'd'), ("ignore-nonprinting", 'i'), ("field-separator", 't'),
      ("zero-terminated", 'z'), ("merge", 'm'), ("check", 'c')]
    status := 2 }
  given options words fun name g ↦ do
    let refused (text : Bytes) : Act Nat := do
      let _ ← fault name text
      return 2
    match Sorting.read g with
    | .error text => refused text
    | .ok sorting =>
      let paths := if g.operands.isEmpty then [[byteOf '-']] else g.operands
      let stop : UInt8 := if g.has 'z' then 0 else 0x0A
      let isCheck := g.has 'c' || g.has 'C'
      let letter : Bytes := if g.has 'c' then "c" else "C"
      if isCheck then
        if let some a := paths[1]? then
          return ← refused ("extra operand " ++ quoted a ++ " not allowed with -" ++ letter)
        if g.has 'o' then
          return ← refused ("options '-" ++ letter ++ "o' are incompatible")
      for a in paths do
        if a ≠ ("-" : Bytes) then
          if let .error e := ← found true a then
            return ← refused ("cannot read: " ++ shown a ++ ": " ++ describe e)
      if isCheck then
        match ← sortedSources name stop paths with
        | .error status => return status
        | .ok texts =>
          match sorting.disorder? texts.flatten with
          | none => return 0
          | some (number, line) =>
            if g.has 'C' then return 1
            return ← fault name (paths.headD [] ++ ":" ++ toString number ++ ": disorder: " ++
              line)
      let p ← get
      let mode := 0o666 &&& (0o777 ^^^ p.mask)
      let output := g.argument? 'o'
      if let some path := output then
        if let .error e := ← changeFiles fun t cwd ↦
            t.putFile cwd path mode ((t.contents cwd path).toOption.getD []) then
          return ← refused ("open failed: " ++ shown path ++ ": " ++ describe e)
      match ← sortedSources name stop paths with
      | .error status => return status
      | .ok texts =>
        let result := (sorting.sorted (g.has 'm') texts).flatMap (· ++ [stop])
        match output with
        | none => return 2 * (← print name result)
        | some path =>
          return 2 * (← changeOrFault name (shown path)
            fun t cwd ↦ t.putFile cwd path mode result)

end IngestCheck.Host.Toolbox
