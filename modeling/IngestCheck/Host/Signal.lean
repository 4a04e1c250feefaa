import IngestCheck.Text.Utf8

namespace IngestCheck.Host

def signalLimit : Nat := 65

/-- The names of signals by position, from the pseudo-signal zero on. A signal without a name goes
by its number. -/
def signalNames : List String :=
  ["EXIT", "HUP", "INT", "QUIT", "ILL", "TRAP", "ABRT", "BUS", "FPE", "KILL", "USR1", "SEGV",
    "USR2", "PIPE", "ALRM", "TERM", "16", "CHLD", "CONT", "STOP", "TSTP", "TTIN", "TTOU", "URG",
    "XCPU", "XFSZ", "VTALRM", "PROF", "WINCH", "IO", "PWR", "SYS", "32", "33", "RTMIN"] ++
  (List.range 15).map (fun n ↦ s!"RTMIN+{n + 1}") ++
  (List.range 14).map (fun n ↦ s!"RTMAX-{14 - n}") ++ ["RTMAX"]

def signalName (number : Nat) : String := signalNames.getD number (toString number)

/-- The signal that a text names, by number or, letter case aside, by name. Names below the least
number are not looked at. -/
def signal? (least : Nat) (text : Bytes) : Option Nat :=
  let digits := text.takeWhile fun b ↦ 0x30 ≤ b && b ≤ 0x39
  if !text.isEmpty && digits = text then
    let number := digits.foldl (fun n b ↦ n * 10 + (b - 0x30).toNat) 0
    if number < signalLimit then some number else none
  else
    let upper (b : UInt8) : UInt8 := if 0x61 ≤ b && b ≤ 0x7A then b - 0x20 else b
    let wanted := text.map upper
    (List.range signalLimit).find? fun n ↦
      decide (least ≤ n) && Bytes.ofString (signalName n) = wanted

def signalDescriptions : List String :=
  ["Unknown signal 0", "Hangup", "Interrupt", "Quit", "Illegal instruction",
    "Trace/breakpoint trap", "Aborted", "Bus error", "Floating point exception", "Killed",
    "User defined signal 1", "Segmentation fault", "User defined signal 2", "Broken pipe",
    "Alarm clock", "Terminated", "Stack fault", "Child exited", "Continued", "Stopped (signal)",
    "Stopped", "Stopped (tty input)", "Stopped (tty output)", "Urgent I/O condition",
    "CPU time limit exceeded", "File size limit exceeded", "Virtual timer expired",
    "Profiling timer expired", "Window changed", "I/O possible", "Power failure",
    "Bad system call"]

def signalDescription (number : Nat) : String :=
  signalDescriptions.getD number
    (if number < 34 then s!"Unknown signal {number}" else s!"Real-time signal {number - 34}")

inductive Effect where
  | death
  | stop
  | nothing
  deriving DecidableEq, Repr

def effect (number : Nat) : Effect :=
  if [0, 17, 18, 23, 28].contains number then .nothing
  else if [19, 20, 21, 22].contains number then .stop
  else .death

def isUnstoppable (number : Nat) : Bool := number = 9 || number = 19

end IngestCheck.Host
