import IngestCheck.Host.Shell.State

namespace IngestCheck.Host.Shell

def Job.condition (j : Job) : String :=
  if j.goesOn then "Running"
  else match j.signal with
    | some signal => signalDescription signal
    | none => if j.status = 0 then "Done" else s!"Done({j.status})"

namespace State

/-- Make room for a command that the shell starts. It takes the lowest number that is free, or that
belongs to a job which has been waited for. -/
def makeRoom (s : State) : Nat × State :=
  let isTaken (n : Nat) : Bool := s.jobs.any fun j ↦ j.slot = n && (j.goesOn || !j.waited)
  let numbers := (List.range (s.jobs.length + 1)).map (· + 1)
  let slot := (numbers.find? (!isTaken ·)).getD 1
  (slot, { s with jobs := s.jobs.filter (·.slot ≠ slot) })

def updateJob (s : State) (number : Nat) (change : Job → Job) : State :=
  { s with jobs := s.jobs.map fun j ↦ if j.number = number then change j else j }

/-- The job that a word with a percent sign names, or why there is none. The newest job is the
current one. -/
def job? (s : State) (word : Bytes) : Except Bytes Job :=
  let newest := s.jobs.reverse
  let noSuch : Except Bytes Job := .error ("No such job: " ++ word)
  let orElse (why : Bytes) (j : Option Job) : Except Bytes Job :=
    match j with
    | some j => .ok j
    | none => .error why
  match word.characters with
  | ['%'] | ['%', '%'] | ['%', '+'] => orElse "No current job" newest.head?
  | ['%', '-'] => orElse "No previous job" (newest.drop 1).head?
  | ['%', '?'] => match newest with
    | [] => noSuch
    | [j] => .ok j
    | _ => .error (word ++ ": ambiguous")
  | '%' :: text =>
    if text.all Char.isDigit then
      orElse ("No such job: " ++ word) (newest.find? (·.slot = Number.valueOf 10 text))
    else noSuch
  | _ => noSuch

def conditionWidth : Nat := 33

def jobLine (s : State) (numbered : Bool) (j : Job) : Bytes :=
  let newest := s.jobs.reverse.map (·.number)
  let mark := if newest.head? = some j.number then "+"
    else if (newest.drop 1).head? = some j.number then "-" else " "
  let process := if numbered then s!"{j.number} " else ""
  let text := s!"[{j.slot}] {mark} {process}{j.condition}"
  let gap := max 1 (conditionWidth - text.length)
  Bytes.ofString (text ++ String.ofList (List.replicate gap ' ') ++ "\n")

end State

def tellJob (mode : Option Char) (j : Job) : Run Unit := do
  match mode with
  | some 'p' => emit (Bytes.ofString s!"{j.number}\n")
  | mode =>
    emit ((← get).jobLine (mode = some 'l') j)
    if !j.goesOn then
      modify fun s ↦ { s with jobs := s.jobs.filter (·.number ≠ j.number) }

def namedJob (word : Bytes) : Run Job := do
  match (← get).job? word with
  | .ok j => return j
  | .error why => fail why

end IngestCheck.Host.Shell
