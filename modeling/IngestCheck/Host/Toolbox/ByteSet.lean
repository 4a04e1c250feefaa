import IngestCheck.Host.Toolbox.Basic
import IngestCheck.Text.Number

namespace IngestCheck.Host.Toolbox

def byteClasses : List (String × (UInt8 → Bool)) :=
  let isUpper (b : UInt8) : Bool := byteOf 'A' ≤ b && b ≤ byteOf 'Z'
  let isLower (b : UInt8) : Bool := byteOf 'a' ≤ b && b ≤ byteOf 'z'
  let isDigit (b : UInt8) : Bool := byteOf '0' ≤ b && b ≤ byteOf '9'
  let isLetter (b : UInt8) : Bool := isUpper b || isLower b
  let isGraph (b : UInt8) : Bool := 0x21 ≤ b && b ≤ 0x7E
  [("alnum", fun b ↦ isLetter b || isDigit b), ("alpha", isLetter),
    ("blank", fun b ↦ b = 0x20 || b = 0x09), ("cntrl", fun b ↦ b < 0x20 || b = 0x7F),
    ("digit", isDigit), ("graph", isGraph), ("lower", isLower),
    ("print", fun b ↦ isGraph b || b = 0x20),
    ("punct", fun b ↦ isGraph b && !isLetter b && !isDigit b),
    ("space", fun b ↦ b = 0x20 || (0x09 ≤ b && b ≤ 0x0D)), ("upper", isUpper),
    ("xdigit", fun b ↦ isDigit b || (byteOf 'A' ≤ b && b ≤ byteOf 'F') ||
      (byteOf 'a' ≤ b && b ≤ byteOf 'f'))]

def everyByte : Bytes := (List.range 256).map UInt8.ofNat

/-- A byte of a word, and whether a backslash took its meaning away. -/
abbrev Mark := UInt8 × Bool

def Mark.is (m : Mark) (c : Char) : Bool := m.1 = byteOf c && !m.2

/-- Read the backslashes of a word. What may be meant otherwise is told. -/
def marksOf : Nat → List Char → List Mark × List Bytes
  | 0, _ => ([], [])
  | _, [] => ([], [])
  | _, ['\\'] =>
    ([(byteOf '\\', false)],
      ["warning: an unescaped backslash at end of string is not portable"])
  | fuel + 1, '\\' :: c :: rest =>
    let digits := ((c :: rest).take 3).takeWhile (Number.isDigitOf 8)
    let value := Number.valueOf 8 digits
    if digits.isEmpty then
      let more := marksOf fuel rest
      let letters := [('n', '\n'), ('t', '\t'), ('r', '\r'), ('a', '\x07'), ('b', '\x08'),
        ('f', '\x0C'), ('v', '\x0B')]
      ((byteOf ((letters.lookup c).getD c), true) :: more.1, more.2)
    else if value < 256 then
      let more := marksOf fuel ((c :: rest).drop digits.length)
      ((UInt8.ofNat value, true) :: more.1, more.2)
    else
      let more := marksOf fuel ((c :: rest).drop 2)
      let (first, last) := (String.ofList (digits.take 2), String.ofList (digits.drop 2))
      let warning : Bytes := "warning: the ambiguous octal escape \\" ++ first ++ last ++
        " is being\n\tinterpreted as the 2-byte sequence \\0" ++ first ++ ", " ++ last
      ((UInt8.ofNat (value / 8), true) :: more.1, warning :: more.2)
  | fuel + 1, c :: rest =>
    let more := marksOf fuel rest
    ((byteOf c, false) :: more.1, more.2)

inductive SetPiece where
  | run (bytes : Bytes)
  | named (name : String) (bytes : Bytes)
  | alike (byte : UInt8)
  /-- A byte so many times; without a number, as often as there is room for. -/
  | repeated (byte : UInt8) (count : Option Nat)

namespace SetPiece

def bytes (room : Nat) : SetPiece → Bytes
  | run bytes => bytes
  | named _ bytes => bytes
  | alike b => [b]
  | repeated b count => List.replicate (min (count.getD room) 0x10000) b

def isNamed : SetPiece → Bool
  | named _ _ => true
  | _ => false

def isAlike : SetPiece → Bool
  | alike _ => true
  | _ => false

def fills : SetPiece → Bool
  | repeated _ none => true
  | _ => false

def isCase : SetPiece → Bool
  | named name _ => name = "upper" || name = "lower"
  | _ => false

def shown (bytes : Bytes) : Bytes :=
  bytes.flatMap fun b ↦
    if b = byteOf '\\' then [b, b] else (escape? b).getD [b]

def closed? (mark : UInt8) : List Mark → Option (Bytes × List Mark)
  | a :: b :: rest =>
    if a = (mark, false) && b.is ']' then some ([], rest)
    else (closed? mark (b :: rest)).map fun r ↦ (a.1 :: r.1, r.2)
  | _ => none

def repeated? : List Mark → Except Bytes (Option (SetPiece × List Mark))
  | a :: star :: rest =>
    let digits := rest.takeWhile fun m ↦ !m.2 && m.1 ≠ byteOf ']'
    let text : Bytes := digits.map (·.1)
    match star.is '*', rest.drop digits.length with
    | true, (_, false) :: after =>
      if text.isEmpty then .ok (some (repeated a.1 none, after))
      else
        let base := if text.head? = some (byteOf '0') then 8 else 10
        match Number.read? base text.characters with
        | some (false, n, []) =>
          if n < Number.wordCount - 2 then
            .ok (some (repeated a.1 (if n = 0 then none else some n), after))
          else .error ("invalid repeat count " ++ cited (shown text) ++ " in [c*n] construct")
        | _ => .error ("invalid repeat count " ++ cited (shown text) ++ " in [c*n] construct")
    | _, _ => .ok none
  | _ => .ok none

def isStarred : List Mark → Bool
  | star :: rest =>
    star.is '*' && ((rest.dropWhile fun m ↦ (Char.ofNat m.1.toNat).isDigit).head?).any (·.is ']')
  | [] => false

def enclosed? (mark : UInt8) (rest : List Mark) : Except Bytes (Option (SetPiece × List Mark)) :=
  match closed? mark rest with
  | none => .ok none
  | some (operand, after) =>
    if operand.isEmpty then
      .error (if mark = byteOf ':' then "missing character class name '[::]'"
        else "missing equivalence class character '[==]'")
    else if mark = byteOf ':' then
      match byteClasses.find? fun k ↦ (k.1 : Bytes) = operand with
      | some k => .ok (some (named k.1 (everyByte.filter k.2), after))
      | none =>
        if isStarred rest then .ok none
        else .error ("invalid character class " ++ cited (shown operand))
    else match operand with
      | [b] => .ok (some (alike b, after))
      | _ =>
        if isStarred rest then .ok none
        else .error (shown operand ++ ": equivalence class operand must be a single character")

def read (a b c : Mark) (rest : List Mark) : Except Bytes (SetPiece × List Mark) := do
  if a.is '[' then
    if b.is ':' || b.is '=' then
      if let some found ← enclosed? b.1 (c :: rest) then return found
    if let some found ← repeated? (b :: c :: rest) then return found
  if b.is '-' then
    if a.1 ≤ c.1 then
      return (run (everyByte.filter fun x ↦ a.1 ≤ x && x ≤ c.1), rest)
    .error ("range-endpoints of '" ++ shown [a.1] ++ "-" ++ shown [c.1] ++
      "' are in reverse collating sequence order")
  return (run [a.1], b :: c :: rest)

def readAll : Nat → List Mark → Except Bytes (List SetPiece)
  | fuel + 1, a :: b :: c :: rest => do
    let (piece, rest) ← read a b c rest
    return piece :: (← readAll fuel rest)
  | _, marks => .ok (marks.map fun m ↦ run [m.1])

/-- The bytes of a set in order. A piece without a number of its own fills it up to a length. -/
def bytesOf (length : Nat) (pieces : List SetPiece) : Bytes :=
  let sure := (pieces.filter (!·.fills)).flatMap (bytes 0)
  pieces.flatMap (bytes (length - sure.length))

def casePlaces (length : Nat) (pieces : List SetPiece) : List Nat :=
  let step (r : Nat × List Nat) (piece : SetPiece) : Nat × List Nat :=
    (r.1 + (bytesOf length [piece]).length, if piece.isCase then r.1 :: r.2 else r.2)
  (pieces.foldl step (0, [])).2

end SetPiece

structure Exchange where
  complement : Bool
  drops : Bool
  squeezes : Bool
  /-- Whether bytes that have no image stay as they are. -/
  truncates : Bool

namespace Exchange

def domain (t : Exchange) (pieces : List SetPiece) : Bytes :=
  let bytes := SetPiece.bytesOf 0 pieces
  if t.complement then everyByte.filter (!bytes.contains ·) else bytes

def images (t : Exchange) (first second : List SetPiece) : Except Bytes Bytes := do
  let domain := t.domain first
  let bytes := SetPiece.bytesOf domain.length second
  if second.any SetPiece.isAlike then
    .error "[=c=] expressions may not appear in string2 when translating"
  if second.any fun s ↦ s.isNamed && !s.isCase then
    .error ("when translating, the only character classes that may appear in\n" ++
      "string2 are 'upper' and 'lower'")
  let starts := SetPiece.casePlaces 0 first
  let isMisplaced (n : Nat) : Bool := n ≤ domain.length && !starts.contains n
  if !t.complement && (SetPiece.casePlaces domain.length second).any isMisplaced then
    .error "misaligned [:upper:] and/or [:lower:] construct"
  let isShort := bytes.length < domain.length && !t.truncates
  if isShort && bytes.isEmpty then
    .error "when not truncating set1, string2 must be non-empty"
  if isShort && second.getLast?.any SetPiece.isNamed then
    .error ("when translating with string1 longer than string2,\n" ++
      "the latter string must not end with a character class")
  let bytes := if isShort then
      bytes ++ List.replicate (domain.length - bytes.length) (bytes.getLastD 0)
    else bytes
  let isOne := bytes.length = domain.length && bytes.all (bytes.head? = some ·)
  if t.complement && first.any SetPiece.isNamed && !isOne then
    .error ("when translating with complemented character classes,\n" ++
      "string2 must map all characters in the domain to one")
  return bytes

/-- Drop what repeats the byte before it, if it is in a set. -/
def squeeze (isIn : UInt8 → Bool) : Bytes → Bytes
  | b :: c :: rest =>
    if b = c && isIn b then squeeze isIn (c :: rest) else b :: squeeze isIn (c :: rest)
  | text => text

def change (t : Exchange) (first : List SetPiece) (second : Option (List SetPiece)) :
    Except Bytes (Bytes → Bytes) := do
  let domain := t.domain first
  if first.any SetPiece.fills then
    .error "the [c*] repeat construct may not appear in string1"
  let isDropped (text : Bytes) : Bytes := text.filter (!domain.contains ·)
  match second with
  | none => return if t.drops then isDropped else squeeze domain.contains
  | some second =>
    if 1 < (second.filter SetPiece.fills).length then
      .error "only one [c*] repeat construct may appear in string2"
    if t.drops then
      if second.any SetPiece.fills then
        .error "the [c*] construct may appear in string2 only when translating"
      return fun text ↦ squeeze (SetPiece.bytesOf 0 second).contains (isDropped text)
    let images ← t.images first second
    let pairs := (domain.zip images).reverse
    let mapped (text : Bytes) : Bytes := text.map fun b ↦ (pairs.lookup b).getD b
    return fun text ↦ if t.squeezes then squeeze images.contains (mapped text) else mapped text

end Exchange

def readSets (name : Bytes) : List Bytes → Act (Option (List (List SetPiece)))
  | [] => return some []
  | word :: rest => do
    let (marks, warnings) := marksOf (word.length + 1) word.characters
    for w in warnings do
      let _ ← fault name w
    match SetPiece.readAll marks.length marks with
    | .ok pieces => return (← readSets name rest).map (pieces :: ·)
    | .error text =>
      let _ ← fault name text
      return none

def exchange (words : List Bytes) : Act Nat :=
  let names := [("complement", 'c'), ("delete", 'd'), ("squeeze-repeats", 's'),
    ("truncate-set1", 't')]
  given { flags "AcCdst" names with anywhere := false } words fun name g ↦ do
    let t : Exchange :=
      ⟨g.has 'c' || g.has 'C', g.has 'd', g.has 's', g.has 't'⟩
    let least := if t.drops = t.squeezes then 2 else 1
    let most := if t.drops && !t.squeezes then 1 else 2
    let hint := "Try '" ++ name ++ " --help' for more information.\n"
    if g.operands.length < least then
      match g.operands.getLast? with
      | none => return ← misuse name 1 "missing operand"
      | some word =>
        let _ ← fault name ("missing operand after " ++ cited word)
        let purpose : String := if t.squeezes then "both deleting and squeezing repeats"
          else "translating"
        writeBytes 2 ("Two strings must be given when " ++ purpose ++ ".\n" ++ hint)
        return 1
    if let some extra := g.operands[most]? then
      let _ ← fault name ("extra operand " ++ cited extra)
      if g.operands.length = 2 then
        writeBytes 2 "Only one string may be given when deleting without squeezing repeats.\n"
      writeBytes 2 hint
      return 1
    match ← readSets name g.operands with
    | none => return 1
    | some sets =>
      match t.change (sets.headD []) sets[1]? with
      | .error text => fault name text
      | .ok change =>
        match ← readAll 0 with
        | .error e => fault name ("read error: " ++ describe e)
        | .ok text => print name (change text)

end IngestCheck.Host.Toolbox
