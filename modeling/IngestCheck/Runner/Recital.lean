import IngestCheck.Check.Request

namespace IngestCheck

structure Recital where
  answers : List Answer := []
  history : List Command := []

def Recital.run (r : Recital) (c : Command) : Answer × Recital :=
  match r.answers with
  | [] => (.error (.unexpected "script exhausted"), { r with history := r.history ++ [c] })
  | a :: rest => (a, ⟨rest, r.history ++ [c]⟩)

end IngestCheck
