import IngestCheck.Text.Octet

namespace IngestCheck.Host.Toolbox

def controlLetters : List (UInt8 × Char) :=
  [(0x07, 'a'), (0x08, 'b'), (0x09, 't'), (0x0A, 'n'), (0x0B, 'v'), (0x0C, 'f'), (0x0D, 'r')]

def escape? (b : UInt8) : Option Bytes :=
  match controlLetters.lookup b with
  | some letter => some [byteOf '\\', byteOf letter]
  | none =>
    if 0x20 ≤ b && b < 0x7F then none
    else some [byteOf '\\', 0x30 + b / 64, 0x30 + b / 8 % 8, 0x30 + b % 8]

def cited (word : Bytes) : Bytes :=
  let written (b : UInt8) : Bytes :=
    if b = byteOf '\'' ∨ b = byteOf '\\' then [byteOf '\\', b] else (escape? b).getD [b]
  byteOf '\'' :: word.flatMap written ++ [byteOf '\'']

def shellMarks : Bytes := "!\"$&()*;<=>?[\\^\x60|"

/-- Whether a byte of a name means something to a shell at its place: some do only at the start,
braces only alone. -/
def isMark (length place : Nat) (b : UInt8) : Bool :=
  shellMarks.contains b || (escape? b).isSome ||
    ((b = byteOf '#' || b = byteOf '~') && place = 0) ||
    ((b = byteOf '\x7b' || b = byteOf '\x7d') && length = 1)

def isQuiet (length place : Nat) (b : UInt8) : Bool :=
  !shellMarks.contains b && (escape? b).isNone &&
    ((b ≠ byteOf '#' && b ≠ byteOf '~') || place = 0) &&
    ((b ≠ byteOf '\x7b' && b ≠ byteOf '\x7d') || length = 1)

/-- A name between single quotes. Bytes that cannot be shown are escaped between quotes of their
own. -/
def enclosed (escaping : Bool) : Bytes → Bytes
  | [] => [byteOf '\'']
  | b :: rest =>
    if b = byteOf '\'' then "'\\''" ++ enclosed false rest
    else match escape? b with
      | some text => (if escaping then text else "'$'" ++ text) ++ enclosed true rest
      | none => (if escaping then "''" ++ [b] else [b]) ++ enclosed false rest

/-- A name in quotes: double ones if it holds a single quote and nothing that they would not
hide. -/
def quoted (name : Bytes) : Bytes :=
  if name.contains (byteOf '\'') && name.zipIdx.all fun x ↦ isQuiet name.length x.2 x.1 then
    byteOf '"' :: name ++ [byteOf '"']
  else byteOf '\'' :: enclosed false name

/-- A name as it is, or in quotes where a shell or a reader of messages could mistake it. -/
def shown (name : Bytes) : Bytes :=
  let isOdd (x : UInt8 × Nat) : Bool :=
    isMark name.length x.2 x.1 || [byteOf ' ', byteOf '\'', byteOf ':'].contains x.1
  if name.isEmpty || name.zipIdx.any isOdd then quoted name else name

end IngestCheck.Host.Toolbox
