import IngestCheck.Host.Shell.Pattern
import IngestCheck.Host.Shell.State
import IngestCheck.Text.Number

namespace IngestCheck.Host.Shell

/-- One step of an expansion's result. A region that is separated knows no separator but the null
byte. -/
inductive Cell where
  | byte (escaped : Bool) (b : UInt8)
  | quote
  | opened (separated : Bool)
  | closed
  deriving DecidableEq

namespace Cell

def ofBytes (escaped : Bool) (bytes : Bytes) : List Cell := bytes.map (.byte escaped)

def text (cells : List Cell) : Bytes :=
  cells.filterMap fun c ↦ match c with
    | .byte _ b => some b
    | _ => none

/-- The pattern that bytes make: an escaped one stands for itself. -/
def pattern (cells : List Cell) : List Char :=
  let rec go (backslashed : Bool) : List Cell → List Char
    | [] => []
    | .byte escaped b :: rest =>
      let c := Char.ofNat b.toNat
      if escaped then (if backslashed then [c] else ['\\', c]) ++ go false rest
      else c :: go (c = '\\' && !backslashed) rest
    | _ :: rest => go backslashed rest
  go false cells

def region (separated : Bool) (cells : List Cell) : List Cell :=
  .opened separated :: cells ++ [.closed]

end Cell

structure Splitting where
  fields : List (List Cell) := []
  current : List Cell := []
  cut : Option (List Cell) := none
  inside : Bool := false
  separated : Bool := false
  wasSeparated : Bool := false
  passing : Bool := false
  /-- How many fields may still be closed; without a number, any. -/
  left : Option Nat := none

namespace Splitting

def byte (separators : Bytes) (s : Splitting) (cell : Cell) (b : UInt8) : Splitting :=
  let parts := b = 0 || (!s.separated && separators.contains b)
  let blank := parts && (b = 0 || State.defaultSeparators.contains b)
  if s.left = some 0 then
    let grown := { s with current := cell :: s.current }
    if blank then { grown with cut := s.cut.or (some s.current) }
    else { grown with cut := if parts && s.passing then s.cut else none, passing := false }
  else if s.passing then
    if blank then s
    else if parts then { s with passing := false }
    else { s with current := [cell], passing := false }
  else if parts then
    let s := if s.wasSeparated || s.separated then s else { s with passing := blank }
    if s.current.isEmpty && s.passing then { s with passing := false }
    else if s.left = some 1 then
      { s with left := some 0, cut := some s.current, current := cell :: s.current }
    else
      { s with
        fields := s.current.reverse :: s.fields, current := [], left := s.left.map (· - 1) }
  else { s with current := cell :: s.current }

def step (separators : Bytes) (s : Splitting) (cell : Cell) : Splitting :=
  match cell with
  | .opened separated =>
    { s with inside := true, wasSeparated := s.separated, separated, passing := false }
  | .closed => { s with inside := false }
  | .quote => { s with current := cell :: s.current }
  | .byte _ b =>
    if s.inside then s.byte separators cell b else { s with current := cell :: s.current }

def finish (s : Splitting) : List (List Cell) :=
  let last := s.cut.getD s.current
  (if s.separated || !last.isEmpty then last.reverse :: s.fields else s.fields).reverse

end Splitting

def fieldsOf (separators : Bytes) (limit : Option Nat) (cells : List Cell) : List (List Cell) :=
  (cells.foldl (Splitting.step separators) { left := limit }).finish

/-- The paths that a field stands for, or its own text if there are none. -/
def pathsOf (files : FileTree) (directory : Place) (field : List Cell) : List Bytes :=
  let text := Cell.text field
  if text.any fun b ↦ b = byteOf '*' || b = byteOf '?' || b = byteOf '[' then
    match Pattern.expand files directory (Cell.pattern field) with
    | [] => [text]
    | paths => paths
  else [text]

structure Mode where
  full : Bool := false
  pattern : Bool := false
  quoted : Bool := false
  nested : Bool := false
  tilde : Bool := false
  /-- As an assignment, in which tildes count after the equals sign and after colons. -/
  assigns : Bool := false

namespace Mode

def arguments : Mode := { full := true, tilde := true }
def assignment : Mode := { assigns := true }
def plain : Mode := { tilde := true }
def label : Mode := { pattern := true, tilde := true }
def document : Mode := { quoted := true }

def keepsMarks (m : Mode) : Bool := m.full || m.pattern

end Mode

def cellsOf (m : Mode) (bytes : Bytes) : List Cell := Cell.ofBytes (m.keepsMarks && m.quoted) bytes

def homeOf (s : State) (name : Bytes) : Option Bytes :=
  if name.isEmpty then s.value? "HOME"
  else if name = ("root" : Bytes) then some "/root"
  else none

/-- The cells of unquoted text. A tilde counts at the start if it may, and in an assignment after
the equals sign and colons. What follows the text matters, as it may belong to a name. -/
def textCells (s : State) (m : Mode) (isLast : Bool) : Nat → Bool → Bool → Bytes → List Cell
  | 0, _, _, _ => []
  | _, _, _, [] => []
  | fuel + 1, mayTilde, assigned, b :: rest =>
    let stops (b : UInt8) : Bool := b = byteOf '/' || (m.assigns && b = byteOf ':')
    let name := rest.takeWhile (!stops ·)
    let after := rest.drop name.length
    let home := if mayTilde && b = byteOf '~' && (isLast || !after.isEmpty) then homeOf s name
      else none
    match home with
    | some home =>
      Cell.ofBytes m.keepsMarks home ++ textCells s m isLast fuel false assigned after
    | none =>
      let isEquals := m.assigns && !assigned && b = byteOf '='
      let isColon := m.assigns && b = byteOf ':'
      .byte false b :: textCells s m isLast fuel (isEquals || isColon) (assigned || isEquals) rest

/-- What remains of bytes when a pattern takes the shortest or longest part that fits away from
one end. -/
def trim (form : Form) (pattern : List Char) (cells : List Cell) : List Cell :=
  let text := (Cell.text cells).characters
  let n := text.length
  let upward := List.range (n + 1)
  let fitsStart (k : Nat) : Bool := Pattern.fits pattern (text.take k)
  let fitsEnd (k : Nat) : Bool := Pattern.fits pattern (text.drop k)
  match form with
  | .trimStart => cells.drop ((upward.find? fitsStart).getD 0)
  | .trimStartMost => cells.drop ((upward.reverse.find? fitsStart).getD 0)
  | .trimEnd => cells.take ((upward.reverse.find? fitsEnd).getD n)
  | .trimEndMost => cells.take ((upward.find? fitsEnd).getD n)
  | _ => cells

structure Value where
  texts : List Bytes
  joint : Option UInt8 := none

namespace Value

def length (v : Value) : Nat :=
  let joints := if v.joint.isSome then v.texts.length - 1 else 0
  v.texts.foldl (fun n text ↦ n + text.length) joints

def cells (m : Mode) (v : Value) : List Cell :=
  let joint := match v.joint with
    | some b => [Cell.byte (m.keepsMarks && m.quoted && b ≠ 0) b]
    | none => []
  List.intercalate joint (v.texts.map (cellsOf m))

end Value

def decimal (n : Nat) : Bytes := Bytes.ofString (toString n)

def optionLetters : List Char :=
  ['p', 'u', 'b', 'a', 'C', 'E', 'V', 'v', 'x', 's', 'n', 'm', 'i', 'I', 'f', 'e']

def parameter? (s : State) (m : Mode) (name : Bytes) : Option Value :=
  let single (b : Bytes) : Option Value := some ⟨[b], none⟩
  let several (isAt : Bool) : Option Value :=
    some ⟨s.arguments, if m.full && (isAt || !m.quoted) then some 0 else s.separators.head?⟩
  match name.characters with
  | ['$'] => single (decimal s.root)
  | ['?'] => single (decimal s.status)
  | ['#'] => single (decimal s.arguments.length)
  | ['!'] => s.lastDetached.bind fun n ↦ single (decimal n)
  | ['-'] => single (Bytes.ofCharacters (optionLetters.filter s.has))
  | ['@'] => several true
  | ['*'] => several false
  | c :: _ =>
    if c.isDigit then
      match Number.valueOf 10 name.characters with
      | 0 => single s.name
      | n + 1 => s.arguments[n]?.bind single
    else (s.value? name).bind single
  | [] => none

end IngestCheck.Host.Shell
