import IngestCheck.Host.Toolbox.Basic
import IngestCheck.Text.Number

namespace IngestCheck.Host.Toolbox

structure Decimal where
  negative : Bool
  whole : List Char
  further : List Char

namespace Decimal

def read? (text : Bytes) : Option Decimal :=
  let text := text.characters.dropWhile Number.isBlank
  let (negative, text) := match text with
    | '-' :: rest => (true, rest)
    | '+' :: rest => (false, rest)
    | text => (false, text)
  let whole := text.takeWhile Char.isDigit
  let further := match text.drop whole.length with
    | [] => some []
    | '.' :: rest => if rest.all Char.isDigit then some rest else none
    | _ => none
  match further with
  | some further => if (whole ++ further).isEmpty then none else some ⟨negative, whole, further⟩
  | none => none

def inPlaces (places : Nat) (d : Decimal) : Int :=
  let digits := d.whole ++ d.further ++ List.replicate (places - d.further.length) '0'
  let magnitude : Int := Number.valueOf 10 digits
  if d.negative then -magnitude else magnitude

def width (places : Nat) (d : Decimal) : Nat :=
  (if d.negative then 1 else 0) + max 1 d.whole.length + (if places = 0 then 0 else places + 1)

def write (places width : Nat) (n : Int) : Bytes :=
  let digits := toString n.natAbs
  let digits := String.ofList (List.replicate (places + 1 - digits.length) '0') ++ digits
  let whole := digits.take (digits.length - places)
  let text := if places = 0 then digits
    else whole.toString ++ "." ++ (digits.drop (digits.length - places)).toString
  let sign : String := if n < 0 then "-" else ""
  sign ++ String.ofList (List.replicate (width - sign.length - text.length) '0') ++ text

end Decimal

def sequence (words : List Bytes) : Act Nat := do
  let isNegative (word : Bytes) : Bool := match word.characters with
    | '-' :: c :: _ => c = '.' || c.isDigit
    | _ => false
  let tool := words.take 1 ++ (words.drop 1).takeWhile (!isNegative ·)
  let rest := words.drop tool.length
  let options : Options := {
    letters := [('s', true), ('w', false)]
    names := [("separator", 's'), ("equal-width", 'w')], anywhere := false }
  given options tool fun name g ↦ do
    let operands := g.operands ++ rest
    if operands.isEmpty then return ← misuse name 1 "missing operand"
    if let some extra := operands[3]? then
      return ← misuse name 1 ("extra operand " ++ cited extra)
    if let some a := operands.find? fun a ↦ (Decimal.read? a).isNone then
      return ← misuse name 1 ("invalid floating point argument: " ++ cited a)
    let one : Decimal := ⟨false, ['1'], []⟩
    let (first, step, last) := match operands.filterMap Decimal.read? with
      | [b] => (one, one, b)
      | [a, b] => (a, one, b)
      | a :: s :: b :: _ => (a, s, b)
      | [] => (one, one, one)
    let places := max first.further.length step.further.length
    let finest := max places last.further.length
    let (a, s, b) := (first.inPlaces finest, step.inPlaces finest, last.inPlaces finest)
    if s = 0 then
      return ← misuse name 1 ("invalid Zero increment value: " ++ cited (operands.getD 1 []))
    let count := if 0 < s then (b - a) / s + 1 else (a - b) / (-s) + 1
    let width := if g.has 'w' then max (first.width places) (last.width places) else 0
    let value (i : Nat) : Bytes :=
      Decimal.write places width (first.inPlaces places + step.inPlaces places * (i : Int))
    if count ≤ 0 then return 0
    let separator := (g.argument? 's').getD [0x0A]
    print name (List.intercalate separator ((List.range count.toNat).map value) ++ [0x0A])

end IngestCheck.Host.Toolbox
