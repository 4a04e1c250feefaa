import IngestCheck.Proofs.Rehearsal.Drafts
import IngestCheck.Session

namespace IngestCheck.Rehearsal

/-- What may be asked of a runner and of the expectations in the making, each known by a number. -/
inductive Request where
  | prepare (draft : ℕ) (program : String)
  | call (draft : ℕ) (call : Draft.Call)
  | finish (draft : ℕ)
  | abandon (draft : ℕ)
  | run (command : Command)
  | history
  | callsTo (program : String)
  | verifyCalled (program : String) (times : ℕ)

abbrev Request.Reply : Request → Type
  | prepare _ _ | call _ _ | finish _ | abandon _ => Unit
  | run _ => Answer
  | history | callsTo _ => List Command
  | verifyCalled _ _ => Bool

structure Desk where
  session : Session
  drafts : ℕ → Option Draft

namespace Desk

def edit (draft : ℕ) (change : Option Draft → Option Draft) (d : Desk) : Desk :=
  { d with drafts := fun x ↦ if x = draft then change (d.drafts x) else d.drafts x }

def finish (draft : ℕ) (d : Desk) : Desk :=
  let session := (d.drafts draft).elim d.session fun made ↦ d.session.expect made.finish
  edit draft (fun _ ↦ none) { d with session }

end Desk

def serve : (q : Request) → StateM Desk q.Reply
  | .prepare draft program => fun d ↦ ((), d.edit draft fun _ ↦ some { program })
  | .call draft call => fun d ↦ ((), d.edit draft (Option.map (·.add call)))
  | .finish draft => fun d ↦ ((), d.finish draft)
  | .abandon draft => fun d ↦ ((), d.edit draft fun _ ↦ none)
  | .run command => fun d ↦
    let result := (Session.perform command).run d.session
    (result.1, { d with session := result.2 })
  | .history => fun d ↦ (d.session.history, d)
  | .callsTo program => fun d ↦ (d.session.callsTo program, d)
  | .verifyCalled program times => fun d ↦ (d.session.verifyCalled program times, d)

def start (s : Session) : Desk where
  session := { s with performer := .rehearsal {} }
  drafts _ := none

def next (d : Desk) (q : Request) : Desk := (serve q d).2

def after (s : Session) (before : List Request) : Desk := before.foldl next (start s)

def reply (s : Session) (before : List Request) (q : Request) : q.Reply :=
  (serve q (after s before)).1

def Request.command? : Request → Option Command
  | .run command => some command
  | _ => none

def commands (before : List Request) : List Command := before.filterMap Request.command?

/-- The expectation in the making under a number: its program and the calls since. The requests are
given from the last one back. -/
def making? (draft : ℕ) : List Request → Option (String × List Draft.Call)
  | [] => none
  | .prepare x program :: past => if draft = x then some (program, []) else making? draft past
  | .call x call :: past =>
    if draft = x then (making? draft past).map fun m ↦ (m.1, m.2 ++ [call])
    else making? draft past
  | .finish x :: past | .abandon x :: past => if draft = x then none else making? draft past
  | .run _ :: past | .history :: past | .callsTo _ :: past | .verifyCalled _ _ :: past =>
    making? draft past

def drafted? (draft : ℕ) (past : List Request) : Option Draft :=
  (making? draft past).map fun m ↦ Draft.build m.1 m.2

/-- The expectations that were finished, as they were in the making then and in that order. The
requests are given from the last one back. -/
def finished : List Request → List (String × List Draft.Call)
  | [] => []
  | .finish draft :: past => finished past ++ (making? draft past).toList
  | _ :: past => finished past

def registered (before : List Request) : List Expectation :=
  (finished before.reverse).map fun m ↦ .ofCalls m.1 m.2

theorem commands_concat (before : List Request) (q : Request) :
    commands (before ++ [q]) = commands before ++ q.command?.toList := by
  rw [commands, List.filterMap_append, commands]
  cases q <;> rfl

section

variable {s : Session} {r : Rehearsal}

theorem perform_run (h : s.performer = .rehearsal r) (c : Command) : (Session.perform c).run s =
    (r.answer c, { s with performer := .rehearsal { r with history := r.history ++ [c] } }) := by
  obtain ⟨parent, performer, settings⟩ := s
  obtain rfl : performer = .rehearsal r := h
  rfl

theorem expect_performer (h : s.performer = .rehearsal r) (e : Expectation) :
    (s.expect e).performer = .rehearsal { r with expectations := r.expectations ++ [e] } := by
  simp only [Session.expect, h, expect]

end

structure Standing (before : List Request) (d : Desk) : Prop where
  performer : d.session.performer = .rehearsal ⟨registered before, commands before⟩
  drafts : ∀ x, d.drafts x = drafted? x before.reverse

namespace Standing

variable {before : List Request} {d : Desk}

theorem next_performer (h : Standing before d) (q : Request) : (next d q).session.performer =
    .rehearsal ⟨registered (before ++ [q]), commands (before ++ [q])⟩ := by
  rw [registered, List.reverse_concat, commands_concat]
  cases q with
  | finish draft =>
    change ((d.drafts draft).elim d.session fun made ↦ d.session.expect made.finish).performer = _
    change _ = Performer.rehearsal ⟨_, commands before ++ []⟩
    rw [h.drafts, finished, List.map_append, List.append_nil, drafted?]
    cases making? draft before.reverse with
    | none =>
      rw [Option.map_none, Option.toList_none, List.map_nil, List.append_nil]
      exact h.performer
    | some m =>
      rw [Option.map_some, Option.toList_some, List.map_singleton, ← Draft.finish_build]
      exact expect_performer h.performer _
  | run command =>
    change ((Session.perform command).run d.session).2.performer = _
    rw [perform_run h.performer]
    rfl
  | prepare | call | abandon | history | callsTo | verifyCalled =>
    change _ = Performer.rehearsal ⟨registered before, commands before ++ []⟩
    rw [List.append_nil]
    exact h.performer

theorem next_drafts (h : Standing before d) (q : Request) (x : ℕ) :
    (next d q).drafts x = drafted? x (before ++ [q]).reverse := by
  rw [List.reverse_concat, drafted?]
  cases q with
  | prepare draft program =>
    change (if x = draft then some _ else d.drafts x) = _
    rw [h.drafts, making?]
    split <;> rfl
  | call draft call =>
    change (if x = draft then (d.drafts x).map (·.add call) else d.drafts x) = _
    rw [h.drafts, making?]
    split
    case isTrue =>
      rw [drafted?, Option.map_map, Option.map_map]
      exact congrArg (Option.map · _) (funext fun m ↦ (Draft.build_concat m.1 m.2 call).symm)
    case isFalse => rfl
  | finish draft | abandon draft =>
    change (if x = draft then none else d.drafts x) = _
    rw [h.drafts, making?]
    split <;> rfl
  | run | history | callsTo | verifyCalled => exact h.drafts x

end Standing

theorem after_standing (s : Session) (before : List Request) :
    Standing before (after s before) := by
  induction before using List.reverseRecOn with
  | nil => exact ⟨rfl, fun _ ↦ rfl⟩
  | append_singleton before q ih =>
    rw [after, List.foldl_append, List.foldl_cons, List.foldl_nil]
    exact ⟨ih.next_performer q, ih.next_drafts q⟩

end IngestCheck.Rehearsal
