import IngestCheck.Text.Octet

namespace IngestCheck.Number

def isBlank (c : Char) : Bool := c = ' ' || ('\t' ≤ c && c ≤ '\r')

def digit? (c : Char) : Option Nat :=
  if '0' ≤ c ∧ c ≤ '9' then some (c.toNat - 48)
  else if 'a' ≤ c ∧ c ≤ 'z' then some (c.toNat - 87)
  else if 'A' ≤ c ∧ c ≤ 'Z' then some (c.toNat - 55)
  else none

def isDigitOf (base : Nat) (c : Char) : Bool := (digit? c).any (· < base)

def valueOf (base : Nat) (digits : List Char) : Nat :=
  digits.foldl (fun n c ↦ n * base + (digit? c).getD 0) 0

/-- Choose the base, and drop what gives it away. Base zero leaves the choice to the text. -/
def baseOf (base : Nat) (text : List Char) : Nat × List Char :=
  match text with
  | '0' :: x :: d :: rest =>
    if (base = 0 ∨ base = 16) ∧ (x = 'x' ∨ x = 'X') ∧ isDigitOf 16 d then (16, d :: rest)
    else if base = 0 then (8, text) else (base, text)
  | '0' :: _ => if base = 0 then (8, text) else (base, text)
  | _ => if base = 0 then (10, text) else (base, text)

/-- What stands at the start of a text: a sign, a magnitude, and what follows. Nothing if there is
no digit. -/
def read? (base : Nat) (text : List Char) : Option (Bool × Nat × List Char) :=
  let text := text.dropWhile isBlank
  let (negative, text) := match text with
    | '-' :: rest => (true, rest)
    | '+' :: rest => (false, rest)
    | _ => (false, text)
  let (base, text) := baseOf base text
  let digits := text.takeWhile (isDigitOf base)
  if digits.isEmpty then none else some (negative, valueOf base digits, text.drop digits.length)

structure Reading where
  value : Int
  exact : Bool
  rest : List Char
  deriving DecidableEq

def wordCount : Nat := 0x10000000000000000

def signedBound : Nat := 0x8000000000000000

def readSigned (base : Nat) (text : List Char) : Reading :=
  match read? base text with
  | none => ⟨0, true, text⟩
  | some (true, n, rest) =>
    if n ≤ signedBound then ⟨-n, true, rest⟩ else ⟨-signedBound, false, rest⟩
  | some (false, n, rest) =>
    if n < signedBound then ⟨n, true, rest⟩ else ⟨signedBound - 1, false, rest⟩

/-- A number read as an unsigned word; a minus sign takes its complement. -/
def readUnsigned (base : Nat) (text : List Char) : Reading :=
  match read? base text with
  | none => ⟨0, true, text⟩
  | some (negative, n, rest) =>
    if n < wordCount then ⟨if negative then (-(n : Int)) % wordCount else n, true, rest⟩
    else ⟨wordCount - 1, false, rest⟩

/-- The number that a whole text spells, blanks around it aside. Only base zero takes a text
without digits for zero. -/
def whole? (base : Nat) (text : Bytes) : Option Int :=
  let text := text.characters
  let none? := (read? base text).isNone
  let r := readSigned base text
  let rest := if none? then text else r.rest
  if !r.exact || (none? && base ≠ 0) then none
  else if (rest.dropWhile isBlank).isEmpty then some r.value
  else none

def digits (base n : Nat) : List Char := Nat.toDigits base n

end IngestCheck.Number
