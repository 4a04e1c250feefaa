import IngestCheck.Log
import IngestCheck.Text.Alphanumeric
import IngestCheck.Text.Number
import IngestCheck.Text.RegularExpression
import IngestCheck.Text.Utf8

namespace IngestCheck.CommandLine

structure FieldMatch where
  name : Bytes
  valued : Bool := false
  deriving DecidableEq, Repr

/-- A level, or nothing at all, for some events. -/
structure Directive where
  target : Option Bytes := none
  span : Option Bytes := none
  field : Option FieldMatch := none
  level : Option Level := some .trace
  deriving DecidableEq, Repr

structure Filter where
  directives : List Directive
  deriving DecidableEq, Repr

namespace Filter

/-- A number without fraction that fits into 64 bits. -/
def isInteger (text : List Char) : Bool :=
  let (negative, digits) : Bool × List Char := match text with
    | '-' :: digits => (true, digits)
    | '+' :: digits => (false, digits)
    | digits => (false, digits)
  let n := Number.valueOf 10 digits
  !digits.isEmpty && digits.all Char.isDigit &&
    (if negative then n ≤ Number.signedBound else n < Number.wordCount)

def level? (text : List Char) : Option (Option Level) :=
  let number := match text with
    | '+' :: digits => digits
    | digits => digits
  if !number.isEmpty && number.all Char.isDigit then
    match (String.ofList number).toNat? with
    | some 0 => some none
    | some n => ([Level.error, .warn, .info, .debug, .trace].find? (·.verbosity = n)).map some
    | none => none
  else if (String.ofList text).toLower = "off" then some none
  else (Level.ofName? (String.ofList text)).map some

def levelOf? (text : Bytes) : Option (Option Level) :=
  if text.isEmpty then some (some .trace) else level? (Utf8.lossy text)

def trim (text : List Char) : List Char :=
  ((text.dropWhile isBlank).reverse.dropWhile isBlank).reverse

/-- A number with a fraction or an exponent, or one beyond all numbers. -/
def isDecimal (text : List Char) : Bool :=
  let unsigned := match text with
    | '-' :: rest | '+' :: rest => rest
    | rest => rest
  let whole := unsigned.takeWhile Char.isDigit
  let rest := unsigned.drop whole.length
  let (fraction, rest) : List Char × List Char := match rest with
    | '.' :: rest => (rest.takeWhile Char.isDigit, rest.dropWhile Char.isDigit)
    | rest => ([], rest)
  let exponent := match rest with
    | [] => true
    | e :: rest =>
      let digits := match rest with
        | '-' :: digits | '+' :: digits => digits
        | digits => digits
      (e = 'e' || e = 'E') && !digits.isEmpty && digits.all Char.isDigit
  ["inf", "infinity", "nan"].contains (String.ofList unsigned).toLower ||
    ((!whole.isEmpty || !fraction.isEmpty) && exponent)

def isFieldValue (text : List Char) : Bool :=
  isInteger text || isDecimal text || RegularExpression.isValid text

/-- Read what stands between braces. -/
def field? (text : Bytes) : Option FieldMatch :=
  let name := text.takeWhile (· ≠ 0x3D)
  if text.isEmpty then none
  else match text.drop name.length with
    | [] => some { name }
    | _ :: rest =>
      if isFieldValue (Utf8.lossy (rest.takeWhile (· ≠ 0x3D))) then some { name, valued := true }
      else none

/-- The level that follows a target in brackets. What decides where the level begins is the text
without the blanks around it, yet the level is cut from the text with them. -/
def afterBrackets? (d : Directive) (text trimmed : Bytes) (place : Nat) : Option Directive :=
  match trimmed[place]? with
  | none => some d
  | some b =>
    if b = 0x3D then (levelOf? (text.drop (place + 1))).map fun level ↦ { d with level }
    else none

/-- The part of a directive inside brackets: a span, a field in braces, or both. -/
def inBrackets? (d : Directive) (text trimmed : Bytes) (start : Nat) : Option Directive :=
  let cut (a b : Nat) : Bytes := (text.take b).drop a
  let middle := start + ((trimmed.drop start).takeWhile fun b ↦ b ≠ 0x5D && b ≠ 0x7B).length
  match trimmed[middle]? with
  | none => none
  | some b =>
    if b = 0x5D then
      afterBrackets? { d with span := some (cut start middle) } text trimmed (middle + 1)
    else
      let final := middle + 1 + ((trimmed.drop (middle + 1)).takeWhile (· ≠ 0x7D)).length
      let span := if middle = start then none else some (cut start middle)
      if trimmed[final]? = some 0x7D && trimmed[final + 1]? = some 0x5D then
        match field? (cut (middle + 1) final) with
        | some field => afterBrackets? { d with span, field } text trimmed (final + 2)
        | none => none
      else none

def directive? (chars : List Char) : Option Directive :=
  let text := Utf8.encode chars
  let trimmed := Utf8.encode (trim chars)
  match trim chars with
  | [] => none
  | first :: _ =>
    if first = '[' then inBrackets? {} text trimmed 1
    else if !isAlphanumeric first && !(['-', ':', '_'].contains first) then none
    else
      let plain := (trimmed.takeWhile fun b ↦ b ≠ 0x3D && b ≠ 0x5B).length
      let target := some (text.take plain)
      match trimmed[plain]? with
      | none => match level? chars with
        | some level => some { level }
        | none => some { target := some text }
      | some b =>
        if b = 0x3D then
          (levelOf? (text.drop (plain + 1))).map fun level ↦ { target, level }
        else inBrackets? { target } text trimmed (plain + 1)

def splitCommas : List Char → List (List Char)
  | [] => [[]]
  | c :: rest =>
    if c = ',' then [] :: splitCommas rest
    else match splitCommas rest with
      | [] => [[c]]
      | piece :: more => (c :: piece) :: more

/-- Read a filter; nothing if any directive is malformed. -/
def parse? (text : String) : Option Filter :=
  (((splitCommas text.toList).filter (!·.isEmpty)).mapM directive?).map Filter.mk

def eventField : Bytes := "message"

/-- How closely a directive describes events of a target: not at all if it does not fit. One that
asks for a span or for a value never fits. -/
def closeness (d : Directive) (target : Bytes) : Option (Nat × Nat) :=
  if d.span.isSome || d.field.any fun f ↦ f.valued || f.name ≠ eventField then none
  else
    let fields := if d.field.isSome then 1 else 0
    match d.target with
    | none => some (0, fields)
    | some t => if t.isPrefixOf target then some (t.length + 1, fields) else none

def atLeast (a b : Nat × Nat) : Bool := b.1 < a.1 || (a.1 = b.1 && b.2 ≤ a.2)

/-- The directive with the longest fitting target decides, of equals the one with more fields, and
of equals again the last. -/
def levelFor (f : Filter) (target : Bytes) : Option Level :=
  (f.directives.foldl (fun (best : (Nat × Nat) × Option Level) d ↦
    match closeness d target with
    | some n => if atLeast n best.1 then (n, d.level) else best
    | none => best) ((0, 0), none)).2

def shows (f : Filter) (e : Event) : Bool :=
  match f.levelFor e.source.target with
  | some level => e.level.verbosity ≤ level.verbosity
  | none => false

end Filter

def logLevel (verbosity : Nat) : String :=
  if verbosity = 0 then "info"
  else if verbosity = 1 then "debug"
  else if verbosity = 2 then "trace"
  else "trace,tokio=debug,mio=debug"

def filter (setting : Option Bytes) (verbosity : Nat) : Filter :=
  ((setting.bind Utf8.decode?).bind fun text ↦ Filter.parse? (String.ofList text)).getD
    ((Filter.parse? (logLevel verbosity)).getD ⟨[]⟩)

end IngestCheck.CommandLine
