import IngestCheck.Text.Number

namespace IngestCheck.Floating

/-- A decimal number as written: a sign, all its digits as one number, and the power of ten that
they are worth. -/
structure Decimal where
  negative : Bool
  digits : Nat
  power : Int
  deriving DecidableEq

inductive Written where
  | decimal (d : Decimal)
  | infinity (negative : Bool)
  | notANumber
  deriving DecidableEq

def lower (text : List Char) : List Char := text.map Char.toLower

def readExponent (text : List Char) : Int × List Char :=
  match text with
  | e :: rest =>
    if e = 'e' ∨ e = 'E' then
      let (negative, more) := match rest with
        | '-' :: more => (true, more)
        | '+' :: more => (false, more)
        | more => (false, more)
      let digits := more.takeWhile Char.isDigit
      if digits.isEmpty then (0, text)
      else
        let n : Int := Number.valueOf 10 digits
        (if negative then -n else n, more.drop digits.length)
    else (0, text)
  | [] => (0, [])

def read? (text : List Char) : Option (Written × List Char) :=
  let text := text.dropWhile Number.isBlank
  let (negative, text) := match text with
    | '-' :: rest => (true, rest)
    | '+' :: rest => (false, rest)
    | _ => (false, text)
  let starts (word : String) : Bool := word.toList.isPrefixOf (lower text)
  let whole := text.takeWhile Char.isDigit
  let rest := text.drop whole.length
  let (fraction, rest) := match rest with
    | '.' :: more =>
      let fraction := more.takeWhile Char.isDigit
      if whole.isEmpty && fraction.isEmpty then ([], rest)
      else (fraction, more.drop fraction.length)
    | _ => ([], rest)
  if starts "infinity" then some (.infinity negative, text.drop 8)
  else if starts "inf" then some (.infinity negative, text.drop 3)
  else if starts "nan" then some (.notANumber, text.drop 3)
  else if whole.isEmpty && fraction.isEmpty then none
  else
    let (power, rest) := readExponent rest
    some (.decimal ⟨negative, Number.valueOf 10 (whole ++ fraction), power - fraction.length⟩, rest)

/-- A quotient rounded to the nearest whole number, ties to even. -/
def roundQuotient (num den : Nat) : Nat :=
  let q := num / den
  let r := 2 * (num % den)
  if den < r ∨ (r = den ∧ q % 2 = 1) then q + 1 else q

def scaled (base n : Nat) (power : Int) : Nat × Nat :=
  match power with
  | .ofNat p => (n * Nat.pow base p, 1)
  | .negSucc p => (n, Nat.pow base (p + 1))

/-- The nearest number with a mantissa of 53 bits and a power of two no less than -1074. -/
def nearest (num den : Nat) : Nat × Int :=
  if num = 0 then (0, 0)
  else
    let guess : Int := (Nat.log2 num : Int) - Nat.log2 den - 52
    let isLow (k : Int) : Bool :=
      let s := scaled 2 den k
      decide (num * s.2 < Nat.pow 2 52 * s.1)
    let k := if isLow guess then guess - 1 else guess
    let k := if k < -1074 then -1074 else k
    let s := scaled 2 den k
    (roundQuotient (num * s.2) s.1, k)

def isFinite (m : Nat) (power : Int) : Bool :=
  m = 0 || decide ((Nat.log2 m : Int) + power < 1024)

def quotient (m : Nat) (power : Int) : Nat × Nat := scaled 2 m power

/-- The nearest floating-point number to a decimal one, as a quotient, if it is finite. Exponents
beyond all numbers are cut short. -/
def Decimal.quotient? (d : Decimal) : Option (Nat × Nat) :=
  if d.digits = 0 then some (0, 1)
  else if 400 < d.power + (Nat.log2 d.digits : Int) / 3 then none
  else if d.power < -1200 - (Nat.log2 d.digits : Int) then some (0, 1)
  else
    let s := scaled 10 d.digits d.power
    let (m, power) := nearest s.1 s.2
    if isFinite m power then some (quotient m power) else none

def leftPad (width : Nat) (text : List Char) : List Char :=
  List.replicate (width - text.length) '0' ++ text

def fixed (places : Nat) (point : Bool) (q : Nat × Nat) : List Char :=
  let scaled := roundQuotient (q.1 * Nat.pow 10 places) q.2
  let digits := leftPad (places + 1) (Number.digits 10 scaled)
  let whole := digits.take (digits.length - places)
  let fraction := digits.drop (digits.length - places)
  if places = 0 then whole ++ (if point then ['.'] else []) else whole ++ '.' :: fraction

def magnitude (q : Nat × Nat) : Int :=
  if q.2 ≤ q.1 then ((Number.digits 10 (q.1 / q.2)).length : Int) - 1
  else
    let rec find : Nat → Nat → Int
      | 0, k => -(k : Int)
      | fuel + 1, k => if q.2 ≤ q.1 * Nat.pow 10 k then -(k : Int) else find fuel (k + 1)
    find 400 1

/-- The digits of a quotient with a number of places after the first, and its power of ten. -/
def significant (places : Nat) (q : Nat × Nat) : List Char × Int :=
  if q.1 = 0 then (List.replicate (places + 1) '0', 0)
  else
    let power := magnitude q
    let s := scaled 10 q.1 (places - power)
    let digits := Number.digits 10 (roundQuotient s.1 (s.2 * q.2))
    if places + 1 < digits.length then (digits.dropLast, power + 1) else (digits, power)

def exponentText (letter : Char) (power : Int) : List Char :=
  [letter, if power < 0 then '-' else '+'] ++ leftPad 2 (Number.digits 10 power.natAbs)

def withPoint (point : Bool) (digits : List Char) : List Char :=
  match digits with
  | [d] => if point then [d, '.'] else [d]
  | d :: more => d :: '.' :: more
  | [] => []

def scientific (letter : Char) (places : Nat) (point : Bool) (q : Nat × Nat) : List Char :=
  let (digits, power) := significant places q
  withPoint point digits ++ exponentText letter power

def dropZeros (text : List Char) : List Char :=
  if text.contains '.' then
    let text := (text.reverse.dropWhile (· = '0')).reverse
    if text.getLast? = some '.' then text.dropLast else text
  else text

/-- A quotient in whichever of the two ways is shorter, without zeros at the end unless asked. -/
def general (letter : Char) (precision : Nat) (full : Bool) (q : Nat × Nat) : List Char :=
  let precision := if precision = 0 then 1 else precision
  let (digits, power) := significant (precision - 1) q
  if -4 ≤ power ∧ power < precision then
    let text := fixed (precision - 1 - power).toNat full q
    if full then text else dropZeros text
  else
    let mantissa := withPoint full digits
    (if full then mantissa else dropZeros mantissa) ++ exponentText letter power

end IngestCheck.Floating
