import IngestCheck.Host.Walk

namespace IngestCheck.Host

/-- A tool and all the words that it is started with, its own name first. -/
structure Image where
  tool : Tool
  words : List Bytes

/-- The longest word or variable that a program takes, with its end mark. -/
def wordLimit : Nat := 131072

/-- The most that a program takes of words and variables together, a pointer to each included. -/
def wordsLimit : Nat := 2097152

def mayHandOver (words environment : List Bytes) : Bool :=
  let lengths := (words ++ environment).map (·.length + 1)
  let size := lengths.foldl (fun n length ↦ n + length + 8) 0
  lengths.all (· ≤ wordLimit) && size ≤ wordsLimit

namespace FileTree

def isBlank (b : UInt8) : Bool := b = 0x20 || b = 0x09

def lineLimit : Nat := 254

/-- The first line of a script after the mark. One that is too long counts up to the limit, as long
as the name of the interpreter is seen to end. -/
def firstLine? (text : Bytes) : Option Bytes :=
  let seen := text.take lineLimit
  if seen.contains 0x0A || seen.length < lineLimit then some (seen.takeWhile (· ≠ 0x0A))
  else
    let seen := seen.dropLast
    if (seen.dropWhile isBlank).any fun b ↦ isBlank b || b = 0 then some seen else none

def interpreter? (text : Bytes) : Option (Bytes × List Bytes) := do
  let line := (← firstLine? text).dropWhile isBlank
  let line := (line.reverse.dropWhile isBlank).reverse
  let name := line.takeWhile fun b ↦ !isBlank b && b ≠ 0
  let argument := ((line.drop name.length).dropWhile isBlank).takeWhile (· ≠ 0)
  if name.isEmpty then none else some (name, if argument.isEmpty then [] else [argument])

def program (t : FileTree) (cwd : Place) (p : Path) : Except HostError Entry :=
  match t.find true cwd p with
  | .error e => .error e
  | .ok (_, .tool tool) => .ok (.tool tool)
  | .ok (_, .file mode content) =>
    if mode &&& 0o111 = 0 then .error .accessDenied else .ok (.file mode content)
  | .ok _ => .error .accessDenied

def image (t : FileTree) (cwd : Place) : Nat → Path → List Bytes → Except HostError Image
  | 0, _, _ => .error .linkLoop
  | depth + 1, p, words =>
    match t.program cwd p with
    | .error e => .error e
    | .ok (.tool tool) => .ok ⟨tool, words⟩
    | .ok (.file _ (0x23 :: 0x21 :: line)) =>
      match interpreter? line with
      | none => .error .formatError
      | some (name, argument) =>
        image t cwd depth name ([name] ++ argument ++ [p] ++ words.drop 1)
    | .ok _ => .error .formatError

/-- How deep interpreters may be nested, the tool at the end included. -/
def imageLimit : Nat := 6

/-- Start a path with some words and variables. A path that leads to no program is told before
words that are too long, and those before a program that cannot be carried out. -/
def start (t : FileTree) (cwd : Place) (environment : List Bytes) (p : Path)
    (words : List Bytes) : Except HostError Image :=
  match t.program cwd p with
  | .error e => .error e
  | .ok _ =>
    if mayHandOver (p :: words) environment then t.image cwd imageLimit p words
    else .error .listTooLong

def shellPath : Path := "/bin/sh"

/-- Start a path, and let the shell read it if it is in no format that the host knows. -/
def startOrRead (t : FileTree) (cwd : Place) (environment : List Bytes) (p : Path)
    (words : List Bytes) : Except HostError Image :=
  match t.start cwd environment p words with
  | .error (.os 8) => t.start cwd environment shellPath (shellPath :: p :: words.drop 1)
  | result => result

def splitColon : Bytes → List Bytes
  | [] => [[]]
  | b :: rest =>
    if b = 0x3A then [] :: splitColon rest
    else match splitColon rest with
      | [] => [[b]]
      | dir :: more => (b :: dir) :: more

def inDirectory (dir name : Bytes) : Path := if dir.isEmpty then name else dir ++ Path.slash :: name

/-- Start the first program of a name in a search path. A name that holds a slash is a path itself.
What is not there or refused is passed over. If nothing else is found a refusal is told, or else
why the last directory had nothing. -/
def search (startAt : Path → Except HostError Image) (searchPath name : Bytes) :
    Except HostError Image :=
  if name.contains Path.slash then startAt name
  else if name.isEmpty then .error .noEntry
  else if nameLimit < name.length then .error .nameTooLong
  else
    let step (found : Except HostError Image) (dir : Bytes) : Except HostError Image :=
      match found with
      | .error (.os 2) | .error (.os 13) | .error (.os 20) =>
        match found, startAt (inDirectory dir name) with
        | .error (.os 13), .error (.os 2) | .error (.os 13), .error (.os 20) => found
        | _, result => result
      | _ => found
    (splitColon searchPath).foldl step (.error .noEntry)

end FileTree

end IngestCheck.Host
