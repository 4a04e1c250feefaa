namespace IngestCheck

/-- A script that asks questions of type `ρ`, gets replies of type `reply q` and ends with an
`α`. -/
inductive Script (ρ : Type) (reply : ρ → Type) (α : Type) where
  | done (a : α)
  | ask (q : ρ) (next : reply q → Script ρ reply α)

namespace Script

variable {ρ : Type} {reply : ρ → Type} {α β : Type}

def bind : Script ρ reply α → (α → Script ρ reply β) → Script ρ reply β
  | done a, f => f a
  | ask q next, f => ask q fun r ↦ (next r).bind f

instance : Monad (Script ρ reply) where
  pure := done
  bind := bind

def request (q : ρ) : Script ρ reply (reply q) := ask q done

def run {m : Type → Type} [Monad m] (answer : (q : ρ) → m (reply q)) :
    Script ρ reply α → m α
  | done a => pure a
  | ask q next => do (next (← answer q)).run answer

/-- Let another script answer each question. -/
def graft {σ : Type} {echo : σ → Type} (answer : (q : ρ) → Script σ echo (reply q)) :
    Script ρ reply α → Script σ echo α
  | done a => done a
  | ask q next => (answer q).bind fun r ↦ (next r).graft answer

end Script

end IngestCheck
