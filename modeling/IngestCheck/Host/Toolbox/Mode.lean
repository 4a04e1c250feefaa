import IngestCheck.Text.Number

namespace IngestCheck.Host.Toolbox.Mode

def letterBits (old : Nat) (isDirectory : Bool) (c : Char) : Option Nat :=
  let shared (n : Nat) : Nat := n * 0o111
  if c = 'r' then some 0o444
  else if c = 'w' then some 0o222
  else if c = 'x' then some 0o111
  else if c = 'X' then some (if isDirectory || old &&& 0o111 ≠ 0 then 0o111 else 0)
  else if c = 's' then some 0o6000
  else if c = 't' then some 0o1000
  else if c = 'u' then some (shared (old / 64 % 8))
  else if c = 'g' then some (shared (old / 8 % 8))
  else if c = 'o' then some (shared (old % 8))
  else none

def ownerBits (c : Char) : Option Nat :=
  if c = 'u' then some 0o4700
  else if c = 'g' then some 0o2070
  else if c = 'o' then some 0o1007
  else if c = 'a' then some 0o7777
  else none

def without (bits mask : Nat) : Nat := bits &&& (0o7777 ^^^ (mask &&& 0o7777))

def operate (isDirectory : Bool) (owners : Nat) : Nat → Nat → List Char → Option Nat
  | 0, _, _ => none
  | _, old, [] => some old
  | fuel + 1, old, sign :: rest =>
    let letters := rest.takeWhile fun c ↦ c ≠ '+' && c ≠ '-' && c ≠ '='
    match letters.mapM (letterBits old isDirectory) with
    | none => none
    | some bits =>
      let bits := bits.foldl (· ||| ·) 0 &&& owners
      let after := rest.drop letters.length
      if sign = '+' then operate isDirectory owners fuel (old ||| bits) after
      else if sign = '-' then operate isDirectory owners fuel (without old bits) after
      else if sign = '=' then
        operate isDirectory owners fuel (without old (owners &&& 0o777) ||| bits) after
      else none

/-- One clause. Where it names nobody, the mask limits what it changes. -/
def clause (mask : Nat) (isDirectory : Bool) (old : Nat) (text : List Char) : Option Nat :=
  let who := text.takeWhile fun c ↦ (ownerBits c).isSome
  let owners := if who.isEmpty then without 0o7777 mask
    else (who.filterMap ownerBits).foldl (· ||| ·) 0
  let operators := text.drop who.length
  if operators.isEmpty then none
  else operate isDirectory owners (operators.length + 1) old operators

def splitComma : List Char → List (List Char)
  | [] => [[]]
  | c :: rest =>
    if c = ',' then [] :: splitComma rest
    else match splitComma rest with
      | [] => [[c]]
      | first :: more => (c :: first) :: more

def changed? (mask : Nat) (isDirectory : Bool) (text : Bytes) (old : Nat) : Option Nat :=
  let text := text.characters
  if !text.isEmpty && text.all Char.isDigit then
    if text.all (Number.isDigitOf 8) ∧ Number.valueOf 8 text ≤ 0o7777 then
      some (Number.valueOf 8 text)
    else none
  else (splitComma text).foldlM (clause mask isDirectory) old

def letters (bits : Nat) : String :=
  let has (n : Nat) : Bool := bits &&& n ≠ 0
  let group (shift special : Nat) (letter : Char) : List Char :=
    let runs := has (shift * 1)
    [if has (shift * 4) then 'r' else '-', if has (shift * 2) then 'w' else '-',
      if has special then (if runs then letter else letter.toUpper)
      else if runs then 'x' else '-']
  String.ofList (group 64 0o4000 's' ++ group 8 0o2000 's' ++ group 1 0o1000 't')

def described (bits : Nat) : String :=
  let digits := String.ofList (Nat.toDigits 8 bits)
  let zeros := String.ofList (List.replicate (4 - digits.length) '0')
  zeros ++ digits ++ " (" ++ letters bits ++ ")"

end IngestCheck.Host.Toolbox.Mode
