namespace IngestCheck

inductive ExitStatus where
  | success
  | error (code : Int32)
  | signal (number : Int32)
  deriving DecidableEq, Repr

namespace ExitStatus

def isSuccess : ExitStatus → Bool
  | .success => true
  | _ => false

/-- The code that a shell reports. The sum wraps around, as codes have 32 bits. -/
def code : ExitStatus → Int32
  | .success => 0
  | .error code => code
  | .signal number => 128 + number

end ExitStatus

end IngestCheck
