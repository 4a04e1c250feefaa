import IngestCheck.Host.Walk
import IngestCheck.Text.Octet

namespace IngestCheck.Host.Shell.Pattern

def isGraphic (c : Char) : Bool := '!' ≤ c && c ≤ '~'

def isBlankLike (c : Char) : Bool := c = ' ' || ('\t' ≤ c && c ≤ '\r')

def classes : List (String × (Char → Bool)) := [
  ("alnum", Char.isAlphanum), ("alpha", Char.isAlpha), ("blank", fun c ↦ c = ' ' || c = '\t'),
  ("cntrl", fun c ↦ decide (c < ' ') || c = '\x7F'), ("digit", Char.isDigit), ("graph", isGraphic),
  ("lower", Char.isLower), ("print", fun c ↦ isGraphic c || c = ' '),
  ("punct", fun c ↦ isGraphic c && !c.isAlphanum), ("space", isBlankLike),
  ("upper", Char.isUpper),
  ("xdigit", fun c ↦ c.isDigit || ('a' ≤ c && c ≤ 'f') || ('A' ≤ c && c ≤ 'F'))]

def class? (text : List Char) : Option ((Char → Bool) × List Char) :=
  classes.findSome? fun k ↦
    let written := ":" ++ k.1 ++ ":]"
    if written.toList.isPrefixOf text then some (k.2, text.drop written.length) else none

def unescaped : List Char → List Char
  | '\\' :: rest => rest
  | text => text

/-- Whether a byte is among those in brackets, given the text after the opening one. What follows
the closing bracket comes with the answer; nothing comes if there is none. -/
def bracket (c : Char) (isFirst found : Bool) : Nat → List Char → Option (Bool × List Char)
  | 0, _ => none
  | _, [] => none
  | fuel + 1, d :: rest =>
    if d = ']' ∧ !isFirst then some (found, rest)
    else match (if d = '[' then class? rest else none) with
      | some (isIn, rest) => bracket c false (found || isIn c) fuel rest
      | none =>
        let (low, rest) := match d, rest with
          | '\\', e :: rest => (e, rest)
          | _, _ => (d, rest)
        match rest with
        | '-' :: e :: more =>
          if e = ']' then bracket c false (found || c = low) fuel rest
          else match unescaped (e :: more) with
            | high :: more => bracket c false (found || (low ≤ c && c ≤ high)) fuel more
            | [] => none
        | _ => bracket c false (found || c = low) fuel rest

def suffixes : List Char → List (List Char)
  | [] => [[]]
  | c :: rest => (c :: rest) :: suffixes rest

/-- Whether a text fits a pattern, within a number of steps that the pattern's length bounds. -/
def fitsWithin : Nat → List Char → List Char → Bool
  | 0, _, _ => false
  | _, [], text => text.isEmpty
  | fuel + 1, p :: pattern, text =>
    let literal (c : Char) (pattern : List Char) : Bool :=
      match text with
      | [] => false
      | d :: text => d = c && fitsWithin fuel pattern text
    match p with
    | '\\' => match pattern with
      | c :: pattern => literal c pattern
      | [] => literal p []
    | '?' => match text with
      | [] => false
      | _ :: text => fitsWithin fuel pattern text
    | '*' => (suffixes text).any fun text ↦ fitsWithin fuel pattern text
    | '[' =>
      let (inverted, inside) := match pattern with
        | '!' :: inside => (true, inside)
        | inside => (false, inside)
      match text with
      | [] => false
      | c :: after => match bracket c true false (inside.length + 1) inside with
        | some (found, pattern) => found != inverted && fitsWithin fuel pattern after
        | none => literal p pattern
    | c => literal c pattern

def fits (pattern text : List Char) : Bool := fitsWithin (pattern.length + 1) pattern text

def closesBracket : Bool → List Char → Bool
  | _, [] => false
  | _, '/' :: _ => false
  | _, '\\' :: rest => match rest with
    | [] => false
    | '/' :: _ => false
    | _ :: rest => closesBracket false rest
  | isFirst, c :: rest => (c = ']' && !isFirst) || closesBracket false rest

/-- A path pattern cut at its first piece that is more than text: the text before it, the piece,
and what follows the slash after it, if there is one. -/
structure Cut where
  before : List Char
  piece : List Char
  after : Option (List Char)

def cut? (before piece : List Char) (special : Bool) : List Char → Option Cut
  | [] => if special then some ⟨before, piece, none⟩ else none
  | '/' :: rest =>
    if special then some ⟨before, piece, some rest⟩
    else cut? (before ++ piece ++ ['/']) [] false rest
  | '\\' :: '/' :: rest =>
    if special then some ⟨before, piece, some rest⟩
    else cut? (before ++ piece ++ ['/']) [] false rest
  | '\\' :: c :: rest => cut? before (piece ++ ['\\', c]) special rest
  | '[' :: rest =>
    let inside := match rest with
      | '!' :: inside => inside
      | inside => inside
    cut? before (piece ++ ['[']) (special || closesBracket true inside) rest
  | c :: rest => cut? before (piece ++ [c]) (special || c = '*' || c = '?') rest

def literalText : List Char → List Char
  | '\\' :: c :: rest => c :: literalText rest
  | c :: rest => c :: literalText rest
  | [] => []

def namesIn (t : FileTree) (cwd : Place) (directory : Path) : List Bytes :=
  match t.directory cwd (if directory.isEmpty then Path.dot else directory) with
  | .ok place =>
    Path.dot :: Path.dotDot :: (t.below place).filterMap fun e ↦ match e.1 with
      | [name] => some name
      | _ => none
  | .error _ => []

def paths (t : FileTree) (cwd : Place) : Nat → List Char → List Char → List Bytes
  | 0, _, _ => []
  | fuel + 1, matched, pattern =>
    match cut? [] [] false pattern with
    | none =>
      let path := Bytes.ofCharacters (matched ++ literalText pattern)
      if !matched.isEmpty && (t.find false cwd path).toBool then [path] else []
    | some c =>
      let directory := matched ++ literalText c.before
      let names := (namesIn t cwd (Bytes.ofCharacters directory)).map Bytes.characters
      let fitting := names.filter fun name ↦
        (name.head? ≠ some '.' || (unescaped c.piece).head? = some '.') && fits c.piece name
      match c.after with
      | none => fitting.map fun name ↦ Bytes.ofCharacters (directory ++ name)
      | some rest => fitting.flatMap fun name ↦ paths t cwd fuel (directory ++ name ++ ['/']) rest

def expand (t : FileTree) (cwd : Place) (pattern : List Char) : List Bytes :=
  (paths t cwd (pattern.length + 1) [] pattern).mergeSort fun a b ↦ !decide (b < a)

end IngestCheck.Host.Shell.Pattern
