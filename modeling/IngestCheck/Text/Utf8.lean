namespace IngestCheck

/-- Bytes as the operating system passes them: an argument, a variable's value, a path. -/
abbrev Bytes := List UInt8

namespace Utf8

def encode (text : List Char) : Bytes := text.flatMap String.utf8EncodeChar

inductive Piece where
  | char (c : Char)
  | invalid (bytes : Bytes)
  deriving DecidableEq, Repr

/-- A character whose first bytes have been read. The next byte must lie between the bounds. -/
structure Partial where
  raw : Bytes
  value : Nat
  missing : Nat
  low : UInt8
  high : UInt8
  deriving DecidableEq, Repr

abbrev State := Option Partial

def lead (b : UInt8) : List Piece × State :=
  if b < 0x80 then ([.char (Char.ofNat b.toNat)], none)
  else if b < 0xC2 then ([.invalid [b]], none)
  else if b < 0xE0 then ([], some ⟨[b], b.toNat - 0xC0, 1, 0x80, 0xBF⟩)
  else if b < 0xF0 then
    ([], some ⟨[b], b.toNat - 0xE0, 2, if b = 0xE0 then 0xA0 else 0x80,
      if b = 0xED then 0x9F else 0xBF⟩)
  else if b < 0xF5 then
    ([], some ⟨[b], b.toNat - 0xF0, 3, if b = 0xF0 then 0x90 else 0x80,
      if b = 0xF4 then 0x8F else 0xBF⟩)
  else ([.invalid [b]], none)

/-- Read a byte. One that cannot continue the character begun so far ends it as ill-formed and is
itself read afresh. -/
def step : State → UInt8 → List Piece × State
  | none, b => lead b
  | some p, b =>
    if p.low ≤ b ∧ b ≤ p.high then
      let value := p.value * 64 + (b.toNat - 0x80)
      if p.missing ≤ 1 then ([.char (Char.ofNat value)], none)
      else ([], some ⟨p.raw ++ [b], value, p.missing - 1, 0x80, 0xBF⟩)
    else (.invalid p.raw :: (lead b).1, (lead b).2)

def flush : State → List Piece
  | none => []
  | some p => [.invalid p.raw]

def piecesFrom : State → Bytes → List Piece
  | s, [] => flush s
  | s, b :: rest => (step s b).1 ++ piecesFrom (step s b).2 rest

def pieces (bytes : Bytes) : List Piece := piecesFrom none bytes

def replacement : Char := '\uFFFD'

def Piece.shown : Piece → Char
  | .char c => c
  | .invalid _ => replacement

/-- The text of a byte string, each maximal ill-formed sequence shown as U+FFFD. -/
def lossy (bytes : Bytes) : List Char := (pieces bytes).map Piece.shown

def decode? (bytes : Bytes) : Option (List Char) :=
  if encode (lossy bytes) = bytes then some (lossy bytes) else none

end Utf8

def Bytes.ofString (text : String) : Bytes := Utf8.encode text.toList

instance : Coe String Bytes := ⟨Bytes.ofString⟩

def Bytes.shown (bytes : Bytes) : String := String.ofList (Utf8.lossy bytes)

end IngestCheck
