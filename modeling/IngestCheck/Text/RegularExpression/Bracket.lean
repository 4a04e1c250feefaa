import IngestCheck.Text.RegularExpression.Atom

namespace IngestCheck.RegularExpression

/-- How far a bracket has been read: it may begin with a caret and then with dashes, and a closing
bracket before any member is itself a member. -/
inductive Stage where
  | opened
  | negated
  | dashes
  | members
  deriving DecidableEq, Repr

/-- A bracket that is being read: how deep what stands before its last operator nests, and how
deep each member after it does, the latest first. -/
structure Bracket where
  stage : Stage := .opened
  before : Option Nat := none
  members : List Nat := []
  deriving DecidableEq, Repr

namespace Bracket

def depth (b : Bracket) : Nat :=
  match b.before with
  | none => nesting b.members
  | some d => nesting [d, nesting b.members]

def add (b : Bracket) (depth : Nat) : Bracket :=
  { b with stage := .members, members := depth :: b.members }

def operate (b : Bracket) : Bracket := { stage := .members, before := some b.depth }

end Bracket

def classNames : List String :=
  ["alnum", "alpha", "ascii", "blank", "cntrl", "digit", "graph", "lower", "print", "punct",
    "space", "upper", "word", "xdigit"]

def named? : List Char → Option (Bool × List Char)
  | ':' :: text =>
    let negated := text.head? = some '^'
    let text := if negated then text.drop 1 else text
    let name := text.takeWhile (· ≠ ':')
    match text.drop name.length with
    | ':' :: ']' :: rest =>
      if classNames.contains (String.ofList name) then some (negated, rest) else none
    | _ => none
  | _ => none

def namedFits (f : Flags) (negated : Bool) : Bool :=
  if f.unicode then !f.caseless else !negated

def member? (f : Flags) : List Char → Option (Atom × List Char)
  | [] => none
  | '\\' :: rest => escape? f rest
  | c :: rest => some (.literal c, rest)

/-- What follows a dash, at a glance: a mark that begins a comment is passed over, but the comment
is not. -/
def glance (f : Flags) (text : List Char) : Option Char :=
  if f.spaced then
    match text.dropWhile isBlank with
    | '#' :: rest => (rest.dropWhile isBlank).head?
    | rest => rest.head?
  else text.head?

def range? (f : Flags) (text : List Char) : Option (List Char) := do
  let (low, rest) ← member? f text
  guard (low.fitsClass f)
  match f.skip rest with
  | [] => none
  | c :: after =>
    if c = '-' && glance f after ≠ some ']' && glance f after ≠ some '-' then
      let (high, rest) ← member? f (f.skip after)
      let first ← low.character?
      let last ← high.character?
      if high.fitsClass f && first ≤ last then some rest else none
    else some (c :: after)

/-- Read brackets up to the end of the outermost, and tell how deep it nests. -/
def brackets? (f : Flags) : Nat → Bracket → List Bracket → List Char → Option (Nat × List Char)
  | 0, _, _, _ => none
  | fuel + 1, b, outer, text => match f.skip text with
    | [] => none
    | c :: rest =>
      let fresh := b.stage = .opened || b.stage = .negated
      let dashed := fresh || b.stage = .dashes
      if c = '^' && b.stage = .opened then
        if f.unicode then brackets? f fuel { b with stage := .negated } outer rest else none
      else if c = '-' && dashed then
        if Atom.fitsClass f (.literal c) then
          brackets? f fuel { b.add 0 with stage := .dashes } outer rest
        else none
      else if c = ']' && fresh then
        if Atom.fitsClass f (.literal c) then brackets? f fuel (b.add 0) outer rest else none
      else if c = ']' then
        match outer with
        | [] => some (b.depth + 1, rest)
        | parent :: outer => brackets? f fuel (parent.add (b.depth + 1)) outer rest
      else if c = '[' then
        match named? rest with
        | some (negated, rest) =>
          if namedFits f negated then brackets? f fuel (b.add 0) outer rest else none
        | none => brackets? f fuel {} ({ b with stage := .members } :: outer) rest
      else if (c = '&' || c = '-' || c = '~') && rest.head? = some c then
        brackets? f fuel b.operate outer (rest.drop 1)
      else match range? f (c :: rest) with
        | some rest => brackets? f fuel (b.add 0) outer rest
        | none => none

def class? (f : Flags) (text : List Char) : Option (Nat × List Char) :=
  brackets? f (text.length + 1) {} [] text

end IngestCheck.RegularExpression
