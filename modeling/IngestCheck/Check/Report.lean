import IngestCheck.Check.Request

namespace IngestCheck.Check

/-- An error from elsewhere, with the texts of what lies under it, from the top. -/
structure Foreign where
  text : String
  beneath : List String := []
  deriving DecidableEq, Repr

instance : Coe String Foreign := ⟨fun text ↦ { text }⟩

inductive Cause where
  | check (e : CheckError)
  | command (e : CommandError)
  | other (e : Foreign)
  deriving DecidableEq, Repr

def Cause.chain : Cause → List String
  | .check e => e.chain
  | .command e => e.chain
  | .other e => e.text :: e.beneath

def Cause.message : Cause → String
  | .check e => e.message
  | .command e => e.message
  | .other e => e.text

/-- A cause with the contexts around it, the outermost first. -/
structure Failure where
  cause : Cause
  contexts : List String := []
  deriving DecidableEq, Repr

namespace Failure

def within (f : Failure) (context : String) : Failure :=
  { f with contexts := context :: f.contexts }

def chain (f : Failure) : List String := f.contexts ++ f.cause.chain

def headline (f : Failure) : String := f.contexts.headD f.cause.message

def numbered : Nat → List String → List String
  | _, [] => []
  | i, text :: rest => s!"  {i}: {text}\n" :: numbered (i + 1) rest

/-- The listing of the chain, shown from verbosity one on. -/
def listing (f : Failure) (verbosity : Nat) : String :=
  if 1 ≤ verbosity then "\nError chain:\n" ++ String.join (numbered 0 f.chain) else ""

/-- Tell people about a failure and give the exit code for it. -/
def report (f : Failure) (verbosity : Nat) : Routine Int32 := do
  match f.cause with
  | .check e =>
    if e.isSkip then
      log .info .report s!"Run skipped: {e.message}"
      print .output (e.userMessage ++ "\n")
    else
      log .error .report s!"Fatal error: {e.message}"
      print .errors (e.userMessage ++ "\n" ++ f.listing verbosity)
    return e.exitCode
  | _ =>
    log .error .report s!"Fatal error: {f.headline}"
    print .errors (s!"Error: {f.headline}\n" ++ f.listing verbosity)
    return 1

end Failure

end IngestCheck.Check
