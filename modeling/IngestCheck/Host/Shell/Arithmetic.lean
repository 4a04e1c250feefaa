import IngestCheck.Host.Shell.Tree
import IngestCheck.Text.Number

namespace IngestCheck.Host.Shell.Arithmetic

inductive Lexeme where
  | number (value : Int)
  | name (text : Bytes)
  | sign (text : String)
  | unknown
  deriving DecidableEq

/-- The signs, longer ones before those that start them. -/
def signs : List String := [
  "<<=", ">>=", "<<", ">>", "<=", ">=", "==", "!=", "&&", "||", "+=", "-=", "*=", "/=", "%=",
  "&=", "|=", "^=", "+", "-", "*", "/", "%", "<", ">", "=", "!", "~", "&", "|", "^", "(", ")",
  "?", ":"]

def lex : Nat → List Char → List Lexeme
  | 0, _ => []
  | _, [] => []
  | fuel + 1, c :: rest =>
    if c = ' ' ∨ c = '\t' ∨ c = '\n' then lex fuel rest
    else if c.isDigit then
      let r := Number.readSigned 0 (c :: rest)
      .number r.value :: lex fuel r.rest
    else if startsName c then
      let more := rest.takeWhile continuesName
      .name (Bytes.ofCharacters (c :: more)) :: lex fuel (rest.drop more.length)
    else match signs.find? fun s ↦ s.toList.isPrefixOf (c :: rest) with
      | some s => .sign s :: lex fuel ((c :: rest).drop s.length)
      | none => [.unknown]

inductive Failure where
  | complaint (text : String)
  | illegalNumber (text : Bytes)
  deriving DecidableEq

structure State where
  rest : List Lexeme
  assigned : List (Bytes × Int) := []

abbrev Calculation := ExceptT Failure (StateM State)

def wrap (n : Int) : Int := Int.bmod n Number.wordCount

/-- How tightly a sign between two operands binds; less is tighter. -/
def rank? (sign : String) : Option Nat :=
  [("*", 0), ("/", 0), ("%", 0), ("+", 1), ("-", 1), ("<<", 2), (">>", 2), ("<", 3), ("<=", 3),
    (">", 3), (">=", 3), ("==", 4), ("!=", 4), ("&", 5), ("^", 6), ("|", 7)].lookup sign

def slackest : Nat := 8

def complain {α : Type} (text : String) : Calculation α := throw (.complaint text)

def bits (f : Nat → Nat → Nat) (a b : Int) : Int :=
  let word (n : Int) : Nat := (n % Number.wordCount).toNat
  wrap (f (word a) (word b))

def operate (sign : String) (a b : Int) : Calculation Int :=
  let truth (p : Bool) : Calculation Int := return if p then 1 else 0
  let power : Nat := Nat.pow 2 (b % 64).toNat
  match sign with
  | "*" => return wrap (a * b)
  | "/" => if b = 0 then complain "division by zero" else return wrap (Int.tdiv a b)
  | "%" => if b = 0 then complain "division by zero" else return wrap (Int.tmod a b)
  | "+" => return wrap (a + b)
  | "-" => return wrap (a - b)
  | "<<" => return wrap (a * power)
  | ">>" => return Int.fdiv a power
  | "<" => truth (a < b)
  | "<=" => truth (a ≤ b)
  | ">" => truth (b < a)
  | ">=" => truth (b ≤ a)
  | "==" => truth (a = b)
  | "!=" => truth (a ≠ b)
  | "&" => return bits (· &&& ·) a b
  | "^" => return bits (· ^^^ ·) a b
  | _ => return bits (· ||| ·) a b

def peek : Calculation (Option Lexeme) := return (← get).rest.head?

def advance : Calculation Unit := modify fun s ↦ { s with rest := s.rest.drop 1 }

def peekSign : Calculation String := do
  match ← peek with
  | some (.sign s) => return s
  | _ => return ""

def value (lookUp : Bytes → Option Bytes) (name : Bytes) : Calculation Int := do
  match (← get).assigned.lookup name with
  | some n => return n
  | none =>
    let text := (lookUp name).getD []
    match Number.whole? 0 text with
    | some n => return n
    | none => throw (.illegalNumber text)

def assign (name : Bytes) (n : Int) : Calculation Unit :=
  modify fun s ↦ { s with assigned := (name, n) :: s.assigned }

def assignment? (sign : String) : Option String :=
  if ["=", "+=", "-=", "*=", "/=", "%=", "&=", "|=", "^=", "<<=", ">>="].contains sign then
    some (String.ofList sign.toList.dropLast)
  else none

mutual

/-- An operand with the signs before it. Without effect, variables are not looked at. -/
def operand (lookUp : Bytes → Option Bytes) : Nat → Bool → Calculation Int
  | 0, _ => complain "expecting primary"
  | fuel + 1, idle => do
    let first ← peek
    advance
    match first with
    | some (.sign "(") =>
      let n ← assignment lookUp fuel idle
      if (← peekSign) ≠ ")" then complain "expecting ')'"
      advance
      return n
    | some (.number n) => return n
    | some (.name name) => if idle then return 0 else value lookUp name
    | some (.sign "+") => operand lookUp fuel idle
    | some (.sign "-") => return wrap (-(← operand lookUp fuel idle))
    | some (.sign "!") => return if (← operand lookUp fuel idle) = 0 then 1 else 0
    | some (.sign "~") => return wrap (-(← operand lookUp fuel idle) - 1)
    | _ => complain "expecting primary"

/-- Go on after an operand and the sign that follows it, as long as signs bind more tightly than
the given rank. -/
def operations (lookUp : Bytes → Option Bytes) : Nat → Bool → Int → String → Nat → Calculation Int
  | 0, _, a, _, _ => return a
  | fuel + 1, idle, a, sign, limit => do
    advance
    let b ← operand lookUp fuel idle
    let rank := (rank? sign).getD slackest
    let next ← peekSign
    let b ← match rank? next with
      | some r => if r < rank then operations lookUp fuel idle b next rank else pure b
      | none => pure b
    let next ← peekSign
    let a ← if idle then pure b else operate sign a b
    match rank? next with
    | some r => if r < limit then operations lookUp fuel idle a next limit else return a
    | none => return a

def comparison (lookUp : Bytes → Option Bytes) : Nat → Bool → Calculation Int
  | 0, _ => complain "expecting primary"
  | fuel + 1, idle => do
    let a ← operand lookUp fuel idle
    let sign ← peekSign
    if (rank? sign).isSome then operations lookUp fuel idle a sign slackest else return a

def conjunction (lookUp : Bytes → Option Bytes) : Nat → Bool → Calculation Int
  | 0, _ => complain "expecting primary"
  | fuel + 1, idle => do
    let a ← comparison lookUp fuel idle
    if (← peekSign) ≠ "&&" then return a
    advance
    let b ← conjunction lookUp fuel (idle || a = 0)
    return if a ≠ 0 ∧ b ≠ 0 then 1 else 0

def disjunction (lookUp : Bytes → Option Bytes) : Nat → Bool → Calculation Int
  | 0, _ => complain "expecting primary"
  | fuel + 1, idle => do
    let a ← conjunction lookUp fuel idle
    if (← peekSign) ≠ "||" then return a
    advance
    let b ← disjunction lookUp fuel (idle || a ≠ 0)
    return if a ≠ 0 ∨ b ≠ 0 then 1 else 0

def conditional (lookUp : Bytes → Option Bytes) : Nat → Bool → Calculation Int
  | 0, _ => complain "expecting primary"
  | fuel + 1, idle => do
    let a ← disjunction lookUp fuel idle
    if (← peekSign) ≠ "?" then return a
    advance
    let b ← assignment lookUp fuel (idle || a = 0)
    if (← peekSign) ≠ ":" then complain "expecting ':'"
    advance
    let c ← conditional lookUp fuel (idle || a ≠ 0)
    return if a ≠ 0 then b else c

def assignment (lookUp : Bytes → Option Bytes) : Nat → Bool → Calculation Int
  | 0, _ => complain "expecting primary"
  | fuel + 1, idle => do
    match (← get).rest with
    | .name name :: .sign sign :: rest =>
      match assignment? sign with
      | none => conditional lookUp fuel idle
      | some combining =>
        modify fun s ↦ { s with rest }
        let n ← assignment lookUp fuel idle
        if idle then return n
        let n ← if combining.isEmpty then pure n
          else do operate combining (← value lookUp name) n
        assign name n
        return n
    | _ => conditional lookUp fuel idle

end

def evaluate (lookUp : Bytes → Option Bytes) (text : Bytes) :
    Except Failure Int × List (Bytes × Int) :=
  let source := text.characters
  let lexemes := lex (source.length + 1) source
  let whole : Calculation Int := do
    let n ← assignment lookUp (8 * lexemes.length + 16) false
    if (← peek).isSome then complain "expecting EOF"
    return n
  let (result, state) := whole.run.run { rest := lexemes }
  (result, state.assigned.reverse)

end IngestCheck.Host.Shell.Arithmetic
