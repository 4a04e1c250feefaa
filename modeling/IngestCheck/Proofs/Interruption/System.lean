import IngestCheck.Check.Pipeline
import IngestCheck.Proofs.Script.Monitor
import IngestCheck.Runner.Children
import Mathlib.Data.List.Induction

namespace IngestCheck.Interruption

inductive Request where
  | check (q : Check.Request)
  | runner (c : Command) (q : Children.Request)

abbrev Request.Reply : Request → Type
  | check q => q.Reply
  | runner _ q => q.Reply

abbrev Program := Script Request Request.Reply

abbrev Result := Except CheckError Check.Outcome

def attend (c : Command) : Program Answer :=
  (Children.run c).graft fun q ↦ Script.request (Request.runner c q)

def serve : (q : Check.Request) → Program q.Reply
  | .run c => attend c
  | .log e => Script.request (Request.check (.log e))
  | .print stream text => Script.request (Request.check (.print stream text))
  | .present path => Script.request (Request.check (.present path))
  | .remove path => Script.request (Request.check (.remove path))

def program (s : Settings) : Program Result := (Check.run s false).graft serve

/-- A child that was started and has not been reaped. -/
inductive Child where
  | running
  | struck
  | gone (ending : Children.Ending)
  deriving DecidableEq, Repr

def Child.isAlive : Child → Bool
  | .gone _ => false
  | _ => true

/-- What the program shares with the rest of the world: the flag, whether somebody can still set
it, and the children, the latest first. -/
structure World where
  flag : Bool := false
  sender : Bool := true
  children : List Child := []

namespace World

def alive (w : World) : Nat := (w.children.filter Child.isAlive).length

/-- The replies that the world can give, and what becomes of it. The flag is read whether or not
its sender is still there. A wait for a child never fails: it ends with the child or, if the flag is
set, without it. A child may be struck or not; in either case it is waited until the child is
gone. -/
inductive Replies : World → (q : Request) → q.Reply → World → Prop
  | host (w : World) {q : Check.Request} (r : q.Reply) (hq : ∀ c, q ≠ .run c) :
    Replies w (.check q) r w
  | noted (w : World) (c : Command) (e : Event) : Replies w (.runner c (.log e)) () w
  | flagRead (w : World) (c : Command) : Replies w (.runner c .stopping) w.flag w
  | refused (w : World) (c c' : Command) (e : HostError) :
    Replies w (.runner c (.launch c')) (.error e) w
  | launched (w : World) (c c' : Command) :
    Replies w (.runner c (.launch c')) (.ok ()) { w with children := .running :: w.children }
  | ended {w : World} (c : Command) {ending : Children.Ending} {rest : List Child} (elapsed : Nat)
    (h : w.children = .gone ending :: rest) :
    Replies w (.runner c .await) (.ended ending elapsed) { w with children := rest }
  | stopped {w : World} (c : Command) (h : w.flag = true) : Replies w (.runner c .await) .stopped w
  | struck {w : World} (c : Command) {rest : List Child} (h : w.children = .running :: rest) :
    Replies w (.runner c .kill) (.ok ()) { w with children := .struck :: rest }
  | missed {w : World} (c : Command) {ending : Children.Ending} {rest : List Child}
    (h : w.children = .gone ending :: rest) : Replies w (.runner c .kill) (.ok ()) w
  | spared (w : World) (c : Command) (e : HostError) : Replies w (.runner c .kill) (.error e) w
  | reaped {w : World} (c : Command) {ending : Children.Ending} {rest : List Child}
    (h : w.children = .gone ending :: rest) :
    Replies w (.runner c .reap) (.ok ()) { w with children := rest }

end World

structure State where
  program : Program Result
  world : World

def initial (s : Settings) : State := ⟨program s, {}⟩

inductive Move where
  | set
  | drop
  | exit (ending : Children.Ending)
  | exchange (e : Exchange Request Request.Reply)

inductive Step : State → Move → State → Prop
  | set {p : Program Result} {w : World} (h : w.sender = true) :
    Step ⟨p, w⟩ .set ⟨p, { w with flag := true }⟩
  | drop (p : Program Result) (w : World) : Step ⟨p, w⟩ .drop ⟨p, { w with sender := false }⟩
  | exit (p : Program Result) {w : World} (before : List Child) {child : Child} {after : List Child}
    (ending : Children.Ending) (h : w.children = before ++ child :: after)
    (halive : child.isAlive = true) :
    Step ⟨p, w⟩ (.exit ending) ⟨p, { w with children := before ++ .gone ending :: after }⟩
  | exchange {q : Request} {next : q.Reply → Program Result} {w w' : World} {r : q.Reply}
    (h : w.Replies q r w') : Step ⟨.ask q next, w⟩ (.exchange ⟨q, r⟩) ⟨next r, w'⟩

/-- The moves that lead from one state to another. Between any two questions of the program the flag
may be set, its sender may be dropped, and a child may end. -/
inductive Execution (first : State) : List Move → State → Prop
  | nil : Execution first [] first
  | step {t : List Move} {m : Move} {st st' : State} :
    Execution first t st → Step st m st' → Execution first (t ++ [m]) st'

theorem Execution.split {first last : State} {before after : List Move}
    (h : Execution first (before ++ after) last) :
    ∃ middle, Execution first before middle ∧ Execution middle after last := by
  induction after using List.reverseRecOn generalizing last with
  | nil => exact ⟨last, by simpa using h, .nil⟩
  | append_singleton after m ih =>
    rw [← List.append_assoc] at h
    generalize ht : before ++ after ++ [m] = t at h
    cases h with
    | nil => simp at ht
    | @step t' m' st _ h hs =>
      obtain ⟨rfl, rfl⟩ := List.append_singleton_inj.mp ht
      obtain ⟨middle, h₁, h₂⟩ := ih h
      exact ⟨middle, h₁, h₂.step hs⟩

theorem Execution.split_cons {first last : State} {before after : List Move} {m : Move}
    (h : Execution first (before ++ m :: after) last) :
    ∃ st st', Execution first before st ∧ Step st m st' ∧ Execution st' after last := by
  rw [List.append_cons] at h
  obtain ⟨st', h, hafter⟩ := h.split
  generalize ht : before ++ [m] = t at h
  cases h with
  | nil => simp at ht
  | @step t' m' st _ h hs =>
    obtain ⟨rfl, rfl⟩ := List.append_singleton_inj.mp ht
    exact ⟨st, st', h, hs, hafter⟩

end IngestCheck.Interruption
