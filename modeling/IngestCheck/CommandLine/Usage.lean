import IngestCheck.CommandLine.Message
import IngestCheck.CommandLine.Options
import IngestCheck.Text.Similarity

namespace IngestCheck.CommandLine

open Message

def programName : String := "ingest-e2e"

def versionMessage : Message := plain s!"{programName} 0.1.0\n"

def KnownOption.shown (o : KnownOption) : Message := literal o.long ++ plain o.operand

/-- How the program may be called: with any options, with certain ones, or with certain ones and a
choice among those that shape a run. -/
inductive Usage where
  | any
  | given (options : List KnownOption)
  | choice (options : List KnownOption)
  deriving DecidableEq, Repr

def choiceText : String :=
  "<" ++ String.intercalate "|" ((KnownOption.all.filter (·.shapesRun)).map (·.usage)) ++ ">"

def Usage.line (u : Usage) : Message :=
  let shown (options : List KnownOption) : Message := options.flatMap fun o ↦ plain " " ++ o.shown
  heading "Usage:" ++ plain " " ++ literal programName ++ match u with
    | .any => plain " [OPTIONS]"
    | .given options => shown options
    | .choice options => shown options ++ plain s!" {choiceText}"

def usageWidth : Nat := (KnownOption.all.map (·.usage.length)).foldl max 0

def KnownOption.helpLine (o : KnownOption) : Message :=
  let short := match o.letter? with
    | some letter => literal s!"-{letter}" ++ plain ", "
    | none => plain "    "
  let gap := String.ofList (List.replicate (usageWidth - o.usage.length + 2) ' ')
  plain "  " ++ short ++ o.shown ++ plain s!"{gap}{o.description}\n"

def helpMessage : Message :=
  plain "Run the OctoAI embedding ingest end-to-end test\n\n" ++ Usage.any.line ++ plain "\n\n" ++
    heading "Options:" ++ plain "\n" ++ KnownOption.all.flatMap (·.helpLine)

/-- What is wrong with arguments. Options that were taken before are told in the order in which
they were last given. -/
inductive UsageError where
  | unknownOption (name : String) (taken : List KnownOption)
  | unexpectedArgument (argument : String)
  | missingValue (o : ValueOption)
  | repeated (o : KnownOption)
  | unexpectedValue (value : String) (o : KnownOption) (taken : List KnownOption)
  deriving DecidableEq, Repr

def similarityBound : Float := 0.7

/-- The option whose name is most like a given one, of equals the last. -/
def KnownOption.closest? (name : String) : Option KnownOption :=
  (KnownOption.all.foldl (fun (best : Float × Option KnownOption) o ↦
    let degree := Similarity.degree name.toList o.name.toList
    if similarityBound < degree && best.1 ≤ degree then (degree, some o) else best)
    (0, none)).2

namespace UsageError

def headline : UsageError → Message
  | .unknownOption name _ =>
    plain "unexpected argument '" ++ invalid ("--" ++ name) ++ plain "' found"
  | .unexpectedArgument argument =>
    plain "unexpected argument '" ++ invalid argument ++ plain "' found"
  | .missingValue o =>
    plain "a value is required for '" ++ invalid (KnownOption.valued o).usage ++
      plain "' but none was supplied"
  | .repeated o =>
    plain "the argument '" ++ invalid o.usage ++ plain "' cannot be used multiple times"
  | .unexpectedValue value o _ =>
    plain "unexpected value '" ++ invalid value ++ plain "' for '" ++ literal o.usage ++
      plain "' found; no more were expected"

def suggestion? : UsageError → Option KnownOption
  | .unknownOption name _ => KnownOption.closest? name
  | _ => none

/-- The usage that is shown, if any. A value for an option that takes none recalls a choice once an
option that shapes a run was taken. -/
def usage? (e : UsageError) : Option Usage :=
  match e with
  | .unknownOption _ taken =>
    let options := match e.suggestion? with
      | some o => if taken.contains o then taken else taken ++ [o]
      | none => taken
    some (if options.isEmpty then .any else .given options)
  | .unexpectedValue _ o taken =>
    if taken.isEmpty then some (.given [o])
    else some (.choice (if o.shapesRun then [] else [o]))
  | .missingValue _ => none
  | _ => some .any

def message (e : UsageError) : Message :=
  let tip := match e.suggestion? with
    | some o => plain "\n\n  " ++ valid "tip:" ++
      plain " a similar argument exists: '" ++ valid o.long ++ plain "'"
    | none => []
  let usage := match e.usage? with
    | some u => plain "\n\n" ++ u.line
    | none => []
  failure "error:" ++ plain " " ++ e.headline ++ tip ++ usage ++
    plain "\n\nFor more information, try '" ++ literal "--help" ++ plain "'.\n"

end UsageError

end IngestCheck.CommandLine
