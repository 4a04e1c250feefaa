import IngestCheck.Text.Utf8

namespace IngestCheck.Terminal

def showControl (c : Char) : List Char :=
  let n := c.toNat
  if n = 0x1B || n = 0x07 || n = 0x08 || n = 0x0C || n = 0x7F then
    let digits := Nat.toDigits 16 n
    ['\\', 'x'] ++ (if digits.length < 2 then '0' :: digits else digits)
  else if 0x80 ≤ n && n ≤ 0x9F then
    ['\\', 'u', '\x7b'] ++ Nat.toDigits 16 n ++ ['\x7d']
  else [c]

/-- The text with the characters that begin a control sequence, ring or erase shown by number. -/
def defuse (text : String) : String := String.ofList (text.toList.flatMap showControl)

inductive Position where
  | ground
  | escape
  | escapeMore
  | control
  | device
  | deviceNumbers
  | deviceMarks
  | deviceBody
  | command
  | character
  deriving DecidableEq, Repr

/-- The position after a byte, and whether the byte prints. A byte without effect on the position
yields none. -/
def move (p : Position) (b : UInt8) : Option Position × Bool :=
  let blank := b = 0x09 || b = 0x0A || b = 0x0C || b = 0x0D
  if b = 0x1B then (some .escape, false)
  else if b = 0x18 || b = 0x1A then (some .ground, false)
  else match p with
    | .ground =>
      if 0xC2 ≤ b && b ≤ 0xF4 then (some .character, true)
      else (none, blank || (0x20 ≤ b && b < 0x7F))
    | .escape =>
      if b < 0x20 then (none, blank)
      else if b < 0x30 then (some .escapeMore, false)
      else if b = 0x5B then (some .control, false)
      else if b = 0x5D then (some .command, false)
      else if b = 0x50 then (some .device, false)
      else if b = 0x58 || b = 0x5E || b = 0x5F then (some .deviceBody, false)
      else if b < 0x7F then (some .ground, false)
      else (none, false)
    | .escapeMore =>
      if b < 0x20 then (none, blank)
      else (if 0x30 ≤ b && b < 0x7F then some .ground else none, false)
    | .control =>
      if b < 0x20 then (none, blank)
      else (if 0x40 ≤ b && b < 0x7F then some .ground else none, false)
    | .device =>
      if b < 0x20 || 0x7F ≤ b then (none, false)
      else if b < 0x30 then (some .deviceMarks, false)
      else (some (if b < 0x40 then .deviceNumbers else .deviceBody), false)
    | .deviceNumbers =>
      if b < 0x20 || 0x7F ≤ b then (none, false)
      else if b < 0x30 then (some .deviceMarks, false)
      else (if b < 0x3C then none else some .deviceBody, false)
    | .deviceMarks => (if 0x30 ≤ b && b < 0x7F then some .deviceBody else none, false)
    | .deviceBody => (if b = 0x9C then some .ground else none, false)
    | .command => (if b = 0x07 then some .ground else none, false)
    | .character => (none, true)

/-- What prints of a byte string. While bytes print, they are read as if no sequence had begun;
one that does not print is read again from where the reader stands. -/
def printed : Position → Bool → Bytes → Bytes
  | _, _, [] => []
  | p, true, b :: rest =>
    if p = .character && 0x80 ≤ b && b < 0xC0 then b :: printed p true rest
    else
      let p := if p = .character then .ground else p
      let (next, prints) := move .ground b
      let p := next.getD p
      if prints then b :: printed p true rest
      else printed ((move p b).1.getD p) false rest
  | p, false, b :: rest =>
    let (next, prints) := move p b
    let p := next.getD p
    if prints then b :: printed ((move .ground b).1.getD p) true rest
    else printed p false rest

def strip (text : String) : String := Bytes.shown (printed .ground false text)

end IngestCheck.Terminal
