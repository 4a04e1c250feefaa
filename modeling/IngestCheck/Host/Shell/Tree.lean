import IngestCheck.Text.Octet

namespace IngestCheck.Host.Shell

inductive Form where
  | plain
  | default
  | alternative
  | demand
  | assign
  | trimEnd
  | trimEndMost
  | trimStart
  | trimStartMost
  | length
  | malformed
  deriving DecidableEq, Repr

inductive Opening where
  | read
  | readWrite
  | write
  | overwrite
  | append
  deriving DecidableEq, Repr

mutual

/-- A piece of a word. A quote only marks where quoting begins and ends. -/
inductive Piece where
  | text (escaped : Bool) (bytes : Bytes)
  | quote
  | parameter (name : Bytes) (form : Form) (orEmpty : Bool) (word : List Piece)
  | command (body : Tree)
  | arithmetic (expression : List Piece)

/-- Where a descriptor is sent. The text of a document is kept apart, since it follows only after
the end of the line. -/
inductive Redirection where
  | file (descriptor : Nat) (opening : Opening) (name : List Piece)
  | copy (descriptor : Nat) (source : Option Nat)
  | copyNamed (descriptor : Nat) (source : List Piece)
  | document (descriptor : Nat) (expands : Bool) (number : Nat)

inductive Tree where
  | nothing
  | simple (line : Nat) (assignments words : List (List Piece)) (redirections : List Redirection)
  | pipeline (detached : Bool) (members : List Tree)
  | redirected (line : Nat) (body : Tree) (redirections : List Redirection)
  | detached (line : Nat) (body : Tree) (redirections : List Redirection)
  | subshell (line : Nat) (body : Tree) (redirections : List Redirection)
  | sequence (first second : Tree)
  | both (first second : Tree)
  | either (first second : Tree)
  | negation (body : Tree)
  | choice (test body otherwise : Tree)
  | loop (whileTrue : Bool) (test body : Tree)
  | each (line : Nat) (name : Bytes) (words : List (List Piece)) (body : Tree)
  | select (line : Nat) (word : List Piece) (arms : List (List (List Piece) × Tree))
  | function (name : Bytes) (body : Tree)

end

abbrev Word := List Piece

instance : Inhabited Tree := ⟨.nothing⟩

def startsName (c : Char) : Bool := c.isAlpha || c = '_'

def continuesName (c : Char) : Bool := c.isAlphanum || c = '_'

def isSpecialParameter (c : Char) : Bool :=
  ['#', '?', '$', '!', '-', '*', '@'].contains c || c.isDigit

def isName (text : Bytes) : Bool :=
  match text.characters with
  | [] => false
  | c :: rest => startsName c && rest.all continuesName

def leadingName (text : Bytes) : Bytes :=
  match text.characters with
  | [] => []
  | c :: rest => if startsName c then byteOf c :: Bytes.ofCharacters (rest.takeWhile continuesName)
    else []

def Word.plain? : Word → Option Bytes
  | [] => some []
  | .text false bytes :: rest => (Word.plain? rest).map (bytes ++ ·)
  | _ => none

def Word.isAssignment (word : Word) : Bool :=
  match word with
  | .text false bytes :: _ =>
    let name := leadingName bytes
    !name.isEmpty && bytes[name.length]? = some (byteOf '=')
  | _ => false

end IngestCheck.Host.Shell
