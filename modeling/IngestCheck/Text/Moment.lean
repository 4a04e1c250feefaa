namespace IngestCheck.Moment

/-- From the first of March of the year zero to the first day of 1970. -/
def epoch : Nat := 719468

def cycle : Nat := 146097

/-- Year, month and day of a day that is counted from 1970. Years are first taken to begin in
March, so that a leap day comes last. -/
def date (day : Nat) : Nat × Nat × Nat :=
  let day := day + epoch
  let inCycle := day % cycle
  let year := (inCycle - inCycle / 1460 + inCycle / 36524 - inCycle / 146096) / 365
  let inYear := inCycle - (365 * year + year / 4 - year / 100)
  let month := (5 * inYear + 2) / 153
  let inMonth := inYear - (153 * month + 2) / 5
  let late := 10 ≤ month
  (400 * (day / cycle) + year + (if late then 1 else 0),
    if late then month - 9 else month + 3, inMonth + 1)

example : date 0 = (1970, 1, 1) := by decide

example : date 11016 = (2000, 2, 29) := by decide

example : date 11017 = (2000, 3, 1) := by decide

def padded (width n : Nat) : String :=
  let digits := toString n
  String.ofList (List.replicate (width - digits.length) '0') ++ digits

def text (microseconds : Nat) : String :=
  let seconds := microseconds / 1000000
  let (year, month, day) := date (seconds / 86400)
  let clock := seconds % 86400
  padded 4 year ++ "-" ++ padded 2 month ++ "-" ++ padded 2 day ++ "T" ++
    padded 2 (clock / 3600) ++ ":" ++ padded 2 (clock / 60 % 60) ++ ":" ++ padded 2 (clock % 60) ++
    "." ++ padded 6 (microseconds % 1000000) ++ "Z"

end IngestCheck.Moment
