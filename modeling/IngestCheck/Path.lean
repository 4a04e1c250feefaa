import IngestCheck.Text.Utf8

namespace IngestCheck

abbrev Path := Bytes

namespace Path

def slash : UInt8 := 0x2F

def pieces : Path → List Bytes
  | [] => [[]]
  | b :: rest =>
    if b = slash then [] :: pieces rest
    else match pieces rest with
      | [] => [[b]]
      | piece :: more => (b :: piece) :: more

def bare (p : Path) : Path := (p.reverse.dropWhile (· = slash)).reverse

def dot : Bytes := [0x2E]

def dotDot : Bytes := [0x2E, 0x2E]

def isAbsolute (p : Path) : Bool := p.head? = some slash

/-- Go down one piece from a stack of names, the deepest first. -/
def descend (stack : List Bytes) (piece : Bytes) : List Bytes :=
  if piece = [] ∨ piece = dot then stack
  else if piece = dotDot then stack.tail
  else piece :: stack

/-- The names that a path leads through once its dots are folded away. -/
def names (p : Path) : List Bytes := ((pieces p).foldl descend []).reverse

def assemble (absolute : Bool) (names : List Bytes) : Path :=
  (if absolute then [slash] else []) ++ List.intercalate [slash] names

/-- The normal form: no empty piece, no dot and no double dot. -/
def normal (p : Path) : Path := assemble (isAbsolute p) (names p)

/-- Continue a path. An absolute continuation stands alone. -/
def join (base p : Path) : Path :=
  if isAbsolute p then p
  else if base.isEmpty || base.getLast? = some slash then base ++ p
  else base ++ slash :: p

def parent? (p : Path) : Option Path :=
  if (names p).isEmpty then none else some (assemble (isAbsolute p) (names p).dropLast)

end Path

end IngestCheck
