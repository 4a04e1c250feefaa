import IngestCheck.Text.Floating

namespace IngestCheck.Host.Shell.Format

def isOctal (c : Char) : Bool := '0' ≤ c && c ≤ '7'

def octal (text : List Char) : Char × List Char :=
  let digits := (text.take 3).takeWhile isOctal
  (Char.ofNat (Number.valueOf 8 digits % 256), text.drop digits.length)

def escapeLetters : List (Char × Char) := [
  ('\\', '\\'), ('a', '\x07'), ('b', '\x08'), ('e', '\x1B'), ('f', '\x0C'), ('n', '\n'),
  ('r', '\r'), ('t', '\t'), ('v', '\x0B')]

def escape (text : List Char) : Char × List Char :=
  match text with
  | c :: rest =>
    if isOctal c then octal text
    else match escapeLetters.lookup c with
      | some e => (e, rest)
      | none => ('\\', text)
  | [] => ('\\', [])

/-- Replace the escapes of a text. An octal number may have a zero more in front; a backslash and
a c cut off the rest, and all that is printed after it. -/
def unescape : Nat → List Char → List Char × Bool
  | 0, text => (text, false)
  | _, [] => ([], false)
  | fuel + 1, '\\' :: rest =>
    match rest with
    | 'c' :: _ => ([], true)
    | _ =>
      let rest := match rest with
        | '0' :: d :: more => if isOctal d then d :: more else rest
        | rest => rest
      let (c, rest) := escape rest
      let r := unescape fuel rest
      (c :: r.1, r.2)
  | fuel + 1, c :: rest =>
    let r := unescape fuel rest
    (c :: r.1, r.2)

def unescaped (text : List Char) : List Char × Bool := unescape (text.length + 1) text

/-- The words in a line, up to an escape that cuts it off. A first word of "-n" asks for no line
end. -/
def line (words : List Bytes) : Bytes :=
  let bare := words.head? = some (Bytes.ofString "-n")
  let rec join : List Bytes → List Char
    | [] => if bare then [] else ['\n']
    | [word] =>
      let (text, cut) := unescaped word.characters
      text ++ if cut || bare then [] else ['\n']
    | word :: rest =>
      let (text, cut) := unescaped word.characters
      if cut then text else text ++ ' ' :: join rest
  Bytes.ofCharacters (join (if bare then words.drop 1 else words))

structure Layout where
  left : Bool := false
  plus : Bool := false
  space : Bool := false
  alternate : Bool := false
  zero : Bool := false
  width : Nat := 0
  precision : Option Nat := none

namespace Layout

def addFlag (l : Layout) (c : Char) : Layout :=
  if c = '-' then { l with left := true }
  else if c = '+' then { l with plus := true }
  else if c = ' ' then { l with space := true }
  else if c = '#' then { l with alternate := true }
  else { l with zero := true }

def blanks (l : Layout) (length : Nat) : List Char := List.replicate (l.width - length) ' '

def fill (l : Layout) (text : List Char) : List Char :=
  if l.left then text ++ l.blanks text.length else l.blanks text.length ++ text

def fillNumber (l : Layout) (zeros : Bool) (sign digits : List Char) : List Char :=
  if zeros && l.zero && !l.left then
    sign ++ List.replicate (l.width - sign.length - digits.length) '0' ++ digits
  else l.fill (sign ++ digits)

def sign (l : Layout) (negative : Bool) : List Char :=
  if negative then ['-'] else if l.plus then ['+'] else if l.space then [' '] else []

def text (l : Layout) (s : List Char) : List Char :=
  l.fill (match l.precision with
    | some p => s.take p
    | none => s)

def whole (l : Layout) (sign lead digits : List Char) : List Char :=
  let digits := match l.precision with
    | some p => if p = 0 ∧ digits = ['0'] then [] else Floating.leftPad p digits
    | none => digits
  l.fillNumber l.precision.isNone (sign ++ lead) digits

end Layout

inductive Warning where
  | noNumber (text : Bytes)
  | notOnly (text : Bytes)
  | outOfRange (text : Bytes)

inductive Failure where
  | noLetter
  | badDirective (text : Bytes)

structure State where
  arguments : List Bytes
  used : Bool := false
  output : List Char := []
  warnings : List Warning := []
  stopped : Bool := false

abbrev Printing := ExceptT Failure (StateM State)

def put (text : List Char) : Printing Unit :=
  modify fun s ↦ { s with output := s.output ++ text }

def argument? : Printing (Option Bytes) := do
  let s ← get
  match s.arguments with
  | [] => return none
  | a :: rest =>
    set { s with arguments := rest, used := true }
    return some a

def warn (w : Warning) : Printing Unit :=
  modify fun s ↦ { s with warnings := s.warnings ++ [w] }

def check (whole rest : List Char) (exact : Bool) : Printing Unit := do
  let shown := Bytes.ofCharacters whole
  if !rest.isEmpty then
    warn (if rest.length = whole.length then .noNumber shown else .notOnly shown)
  else if !exact then warn (.outOfRange shown)

/-- The next argument as a number. After a quotation mark its first byte is meant. -/
def number (signed : Bool) : Printing Int := do
  match ← argument? with
  | none => return 0
  | some a =>
    let text := a.characters
    match text with
    | '"' :: rest | '\'' :: rest => return ((rest.head?.getD '\x00').toNat : Int)
    | _ =>
      let r := if signed then Number.readSigned 0 text else Number.readUnsigned 0 text
      check text (if (Number.read? 0 text).isNone then text else r.rest) r.exact
      return r.value

def floating : Printing Floating.Written := do
  let zero : Floating.Written := .decimal ⟨false, 0, 0⟩
  match ← argument? with
  | none => return zero
  | some a =>
    let text := a.characters
    match text with
    | '"' :: rest | '\'' :: rest =>
      return .decimal ⟨false, (rest.head?.getD '\x00').toNat, 0⟩
    | _ =>
      match Floating.read? text with
      | none =>
        check text text true
        return zero
      | some (w, rest) =>
        check text rest true
        return w

def writeFloating (l : Layout) (letter : Char) (w : Floating.Written) : List Char :=
  let capital := letter.isUpper
  let named (negative : Bool) (name : String) : List Char :=
    l.fillNumber false (l.sign negative) (if capital then name.toUpper else name).toList
  match w with
  | .infinity negative => named negative "inf"
  | .notANumber => named false "nan"
  | .decimal d =>
    match d.quotient? with
    | none => named d.negative "inf"
    | some q =>
      let places := l.precision.getD 6
      let e := if capital then 'E' else 'e'
      let digits := match letter.toLower with
        | 'f' => Floating.fixed places l.alternate q
        | 'e' => Floating.scientific e places l.alternate q
        | _ => Floating.general e places l.alternate q
      l.fillNumber true (l.sign d.negative) digits

def isFlag (c : Char) : Bool := ['#', '-', '+', ' ', '0'].contains c

def measure (text : List Char) : Printing (Option Int × List Char) := do
  match text with
  | '*' :: rest => return (some (← number true), rest)
  | _ =>
    let digits := text.takeWhile fun c ↦ c = '*' || c.isDigit
    return (if digits.isEmpty then none else some (Number.valueOf 10 (digits.filter Char.isDigit)),
      text.drop digits.length)

def unsignedDigits (l : Layout) (letter : Char) (n : Nat) : List Char :=
  match letter with
  | 'o' =>
    let digits := Number.digits 8 n
    l.whole [] [] (if l.alternate && digits.head? ≠ some '0' then '0' :: digits else digits)
  | 'u' => l.whole [] [] (Number.digits 10 n)
  | _ =>
    let digits := Number.digits 16 n
    let lead := if l.alternate && n ≠ 0 then ['0', letter] else []
    l.whole [] lead (if letter = 'X' then digits.map Char.toUpper else digits)

def conversion (text : List Char) : Printing (List Char) := do
  let flags := text.takeWhile isFlag
  let layout : Layout := flags.foldl Layout.addFlag {}
  let (width, rest) ← measure (text.drop flags.length)
  let layout := match width with
    | some w => { layout with left := layout.left || decide (w < 0), width := w.natAbs }
    | none => layout
  let (layout, rest) ← (do
    match rest with
    | '.' :: rest =>
      let (precision, rest) ← measure rest
      let p := precision.getD 0
      return ({ layout with precision := if p < 0 then none else some p.toNat }, rest)
    | _ => return (layout, rest))
  match rest with
  | [] => throw .noLetter
  | letter :: rest =>
    match letter with
    | 'b' =>
      let (s, cut) := unescaped ((← argument?).getD []).characters
      put (layout.text s)
      if cut then modify fun s ↦ { s with stopped := true }
    | 'c' =>
      let a := ((← argument?).getD []).characters
      put (layout.fill [a.head?.getD '\x00'])
    | 's' => put (layout.text ((← argument?).getD []).characters)
    | 'd' | 'i' =>
      let n ← number true
      put (layout.whole (layout.sign (n < 0)) [] (Number.digits 10 n.natAbs))
    | 'o' | 'u' | 'x' | 'X' => put (unsignedDigits layout letter (← number false).toNat)
    | 'e' | 'E' | 'f' | 'F' | 'g' | 'G' => put (writeFloating layout letter (← floating))
    | _ =>
      let directive := text.take (text.length - rest.length)
      throw (.badDirective (Bytes.ofCharacters directive))
    return rest

def pass : Nat → List Char → Printing Unit
  | 0, _ => return ()
  | _, [] => return ()
  | fuel + 1, '\\' :: rest => do
    let (c, rest) := escape rest
    put [c]
    pass fuel rest
  | fuel + 1, '%' :: '%' :: rest => do
    put ['%']
    pass fuel rest
  | fuel + 1, '%' :: rest => do
    let rest ← conversion rest
    if !(← get).stopped then pass fuel rest
  | fuel + 1, c :: rest => do
    put [c]
    pass fuel rest

/-- Go through a format until the arguments are used up, once at least. -/
def passes (format : List Char) : Nat → Printing Unit
  | 0 => return ()
  | fuel + 1 => do
    pass (format.length + 1) format
    let s ← get
    if !s.stopped && s.used && !s.arguments.isEmpty then passes format fuel

structure Printed where
  output : Bytes
  warnings : List Warning
  failure : Option Failure

def print (format : Bytes) (arguments : List Bytes) : Printed :=
  let (result, s) := (passes format.characters (arguments.length + 1)).run.run { arguments }
  ⟨Bytes.ofCharacters s.output, s.warnings, match result with
    | .ok () => none
    | .error text => some text⟩

end IngestCheck.Host.Shell.Format
