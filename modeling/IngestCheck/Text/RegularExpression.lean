import IngestCheck.Text.RegularExpression.Bracket

namespace IngestCheck.RegularExpression

structure Part where
  depth : Nat
  repeatable : Bool := true
  deriving DecidableEq, Repr

/-- A group that is being read: the flags outside it, the depths of its finished branches, and the
parts of its last branch, the latest first. -/
structure Group where
  outside : Flags := {}
  branches : List Nat := []
  parts : List Part := []
  deriving DecidableEq, Repr

namespace Group

def branch (g : Group) : Nat := nesting (g.parts.map (·.depth))

def depth (g : Group) : Nat := nesting (g.branch :: g.branches)

def add (g : Group) (p : Part) : Group := { g with parts := p :: g.parts }

end Group

structure Reading where
  flags : Flags := {}
  names : List (List Char) := []
  group : Group := {}
  outer : List Group := []
  deriving DecidableEq, Repr

def isGroupName : List Char → Bool
  | [] => false
  | first :: rest => (first = '_' || isAlphabetic first) &&
    rest.all fun c ↦ ['_', '.', '[', ']'].contains c || isAlphanumeric c

namespace Reading

def add (r : Reading) (p : Part) : Reading := { r with group := r.group.add p }

def enter (r : Reading) (flags : Flags) : Reading :=
  { r with flags, group := { outside := r.flags }, outer := r.group :: r.outer }

def leave? (r : Reading) : Option Reading :=
  match r.outer with
  | [] => none
  | parent :: outer => some { r with
      flags := r.group.outside
      group := parent.add { depth := r.group.depth + 1 }
      outer }

def branch (r : Reading) : Reading :=
  { r with group := { r.group with branches := r.group.branch :: r.group.branches, parts := [] } }

def repeat? (r : Reading) : Option Reading :=
  match r.group.parts with
  | { depth, repeatable := true } :: parts =>
    some { r with group := { r.group with parts := { depth := depth + 1 } :: parts } }
  | _ => none

def enterNamed? (r : Reading) (text : List Char) : Option (Reading × List Char) :=
  let name := text.takeWhile (· ≠ '>')
  match text.drop name.length with
  | [] => none
  | _ :: rest =>
    if isGroupName name && !r.names.contains name then
      some ({ r.enter r.flags with names := name :: r.names }, rest)
    else none

/-- Change flags, for the rest of a group or inside a group of their own. -/
def change? (r : Reading) (text : List Char) : Option (Reading × List Char) := do
  let letters := text.takeWhile fun c ↦ c ≠ ')' && c ≠ ':'
  let flags ← if letters.isEmpty then some r.flags else r.flags.change? letters
  match text.drop letters.length with
  | ':' :: rest => some (r.enter flags, rest)
  | _ :: rest =>
    if letters.isEmpty then none
    else some ({ r with flags }.add { depth := 0, repeatable := false }, rest)
  | [] => none

def open? (r : Reading) (text : List Char) : Option (Reading × List Char) :=
  match r.flags.skip text with
  | '?' :: 'P' :: '<' :: rest => r.enterNamed? rest
  | '?' :: '<' :: rest => r.enterNamed? rest
  | '?' :: rest => r.change? rest
  | rest => some (r.enter r.flags, rest)

def atom? (r : Reading) (a : Atom) : Option Reading :=
  if a.fits r.flags then some (r.add { depth := 0 }) else none

/-- Read on from a character. Repetition by numbers is not known. -/
def step? (r : Reading) (c : Char) (rest : List Char) : Option (Reading × List Char) :=
  if c = '(' then r.open? rest
  else if c = ')' then r.leave?.map (·, rest)
  else if c = '|' then some (r.branch, rest)
  else if c = '[' then (class? r.flags rest).map fun found ↦ (r.add { depth := found.1 }, found.2)
  else if c = '?' || c = '*' || c = '+' then
    r.repeat?.map (·, if rest.head? = some '?' then rest.drop 1 else rest)
  else if c = '\x7b' then none
  else if c = '\\' then do
    let (a, rest) ← escape? r.flags rest
    return (← r.atom? a, rest)
  else if c = '.' then (r.atom? .anything).map (·, rest)
  else if c = '^' || c = '$' then (r.atom? .edge).map (·, rest)
  else (r.atom? (.literal c)).map (·, rest)

/-- Read to the end, where no group may be left open, and tell how deep the whole nests. -/
def depth? : Nat → Reading → List Char → Option Nat
  | 0, _, _ => none
  | fuel + 1, r, text => match r.flags.skip text with
    | [] => if r.outer.isEmpty then some r.group.depth else none
    | c :: rest => match r.step? c rest with
      | some (r, rest) => depth? fuel r rest
      | none => none

end Reading

def depthLimit : Nat := 250

/-- Whether a text without closing braces is such an expression. -/
def isValid (text : List Char) : Bool :=
  (Reading.depth? (text.length + 1) {} text).any (· ≤ depthLimit)

end IngestCheck.RegularExpression
