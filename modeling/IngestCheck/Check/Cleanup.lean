import IngestCheck.Check.Request
import IngestCheck.Text.Quoted

namespace IngestCheck.Check

/-- Remove a directory with all it holds, if it is there, and tell whether it was. -/
def tidy (dir : Path) : Routine (Except HostError Bool) := do
  if ← present dir then
    log .info .cleanup s!"--- Removing {Bytes.shown dir}"
    match ← remove dir with
    | .ok () => return .ok true
    | .error e => return .error e
  else
    log .debug .cleanup s!"Nothing to remove at {Bytes.shown dir}"
    return .ok false

def tidyNoting (dir : Path) : Routine Unit := do
  match ← tidy dir with
  | .ok _ => return ()
  | .error e => log .warn .cleanup s!"Failed to remove {Bytes.shown dir}: {e.message}"

def tidyAll : List Path → Routine Unit
  | [] => return ()
  | dir :: rest => do
    tidyNoting dir
    tidyAll rest

/-- Run a routine with directories that are removed when it ends, however it ends. -/
def guarded {α : Type} (dirs : List Path) (body : Routine α) : Routine α := do
  log .debug .cleanup s!"Registered cleanup for {Quoted.list (dirs.map Quoted.bytes)}"
  let result ← body
  tidyAll dirs
  return result

end IngestCheck.Check
