namespace IngestCheck.Similarity

def place? (c : Char) (low high : Nat) (text : List (Char × Bool)) : Option Nat :=
  text.zipIdx.findSome? fun ((d, taken), place) ↦
    if low ≤ place && place ≤ high && c = d && !taken then some place else none

/-- The characters of two texts that are matched, each in the order of its own text. Each of the
first text takes the first free equal one of the second within reach. -/
def matched (reach : Nat) (a b : List Char) : List Char × List Char :=
  let (first, marks) := a.zipIdx.foldl (fun (found : List Char × List (Char × Bool)) (c, place) ↦
    match place? c (place - reach) (place + reach) found.2 with
    | some other => (c :: found.1, found.2.set other (c, true))
    | none => found) ([], b.map (·, false))
  (first.reverse, (marks.filter (·.2)).map (·.1))

/-- How alike two texts are, from 0 to 1: by the share of characters that they have in common at
nearby places, less for those in another order. -/
def degree (a b : List Char) : Float :=
  let (first, second) := matched (max a.length b.length / 2 - 1) a b
  let common := first.length
  let swapped := ((first.zip second).filter fun pair ↦ pair.1 ≠ pair.2).length / 2
  if a.isEmpty && b.isEmpty then 1
  else if common = 0 then 0
  else
    let share (part whole : Nat) : Float := part.toFloat / whole.toFloat
    (share common a.length + share common b.length + share (common - swapped) common) / 3

end IngestCheck.Similarity
