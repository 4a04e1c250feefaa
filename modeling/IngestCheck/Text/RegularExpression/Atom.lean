import IngestCheck.Text.RegularExpression.Flags

namespace IngestCheck.RegularExpression

inductive Atom where
  | literal (c : Char)
  | octet (c : Char)
  | anything
  | shorthand (negated : Bool)
  | edge
  | wordEdge
  deriving DecidableEq, Repr

namespace Atom

def character? : Atom → Option Char
  | .literal c => some c
  | .octet c => some c
  | _ => none

/-- Whether a part of the automaton can be built for an atom: without tables no pair of cases and
no word is known beyond ASCII, and a byte beyond ASCII is not well-formed by itself. -/
def fits (f : Flags) : Atom → Bool
  | .literal _ => !(f.unicode && f.caseless)
  | .octet c => if f.unicode then !f.caseless else c.toNat < 0x80
  | .anything => f.unicode
  | .shorthand negated => !f.unicode && !negated
  | .edge => true
  | .wordEdge => !f.unicode

/-- Whether an atom can be a member of a class. A class of bytes holds ASCII only. -/
def fitsClass (f : Flags) : Atom → Bool
  | .literal c => if f.unicode then !f.caseless else c.toNat < 0x80
  | .octet c => if f.unicode then !f.caseless else c.toNat < 0x80
  | .shorthand negated => !f.unicode && !negated
  | _ => false

end Atom

def hexDigit? (c : Char) : Option Nat :=
  if c.isDigit then some (c.toNat - 48)
  else if 'a' ≤ c.toLower && c.toLower ≤ 'f' then some (c.toLower.toNat - 87)
  else none

/-- Read so many hexadecimal digits, with layout before each. -/
def hexNumber? (f : Flags) : Nat → Nat → List Char → Option (Nat × List Char)
  | 0, n, text => some (n, text)
  | count + 1, n, text => match f.skip text with
    | [] => none
    | c :: rest => match hexDigit? c with
      | some digit => hexNumber? f count (n * 16 + digit) rest
      | none => none

def numbered? (f : Flags) (count : Nat) (text : List Char) : Option (Char × List Char) :=
  match hexNumber? f count 0 text with
  | some (n, rest) => if n.isValidChar then some (Char.ofNat n, rest) else none
  | none => none

def standsForItself (c : Char) : Bool :=
  c.toNat < 0x80 && !c.isAlphanum && c ≠ '<' && c ≠ '>'

def controls : List (Char × Char) :=
  [('a', '\x07'), ('f', '\x0C'), ('t', '\t'), ('n', '\n'), ('r', '\r'), ('v', '\x0B')]

/-- Read an escape from after its backslash. No class by property can be read. -/
def escape? (f : Flags) : List Char → Option (Atom × List Char)
  | [] => none
  | c :: rest =>
    if ['d', 's', 'w'].contains c then some (.shorthand false, rest)
    else if ['D', 'S', 'W'].contains c then some (.shorthand true, rest)
    else if c = 'x' then (numbered? f 2 rest).map fun r ↦ (.octet r.1, r.2)
    else if c = 'u' then (numbered? f 4 rest).map fun r ↦ (.literal r.1, r.2)
    else if c = 'U' then (numbered? f 8 rest).map fun r ↦ (.literal r.1, r.2)
    else if c = 'A' || c = 'z' then some (.edge, rest)
    else if ['b', 'B', '<', '>'].contains c then some (.wordEdge, rest)
    else match controls.lookup c with
      | some control => some (.literal control, rest)
      | none => if standsForItself c then some (.literal c, rest) else none

end IngestCheck.RegularExpression
