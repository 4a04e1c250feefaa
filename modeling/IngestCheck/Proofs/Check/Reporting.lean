import IngestCheck.Check.Report
import IngestCheck.Proofs.Check.Announcement

namespace IngestCheck.Check

inductive Link where
  | check (e : CheckError)
  | command (e : CommandError)
  | host (e : HostError)
  | foreign (e : Foreign)

namespace Link

def text : Link → String
  | check e => e.message
  | command e => e.message
  | host e => e.message
  | foreign e => e.text

def source? : Link → Option Link
  | check (.spawn _ e) => some (command e)
  | command (.io _ e) => some (host e)
  | foreign ⟨_, text :: beneath⟩ => some (foreign ⟨text, beneath⟩)
  | _ => none

inductive Rests : Link → List Link → Prop
  | alone {link : Link} (h : link.source? = none) : Rests link [link]
  | upon {link link' : Link} {links : List Link} (h : link.source? = some link')
    (hlinks : Rests link' links) : Rests link (link :: links)

end Link

def Cause.link : Cause → Link
  | .check e => .check e
  | .command e => .command e
  | .other e => .foreign e

/-- What is said of the chain: nothing, or one line for each context and for each error. -/
inductive Listed (f : Failure) : ℕ → String → Prop
  | quiet : Listed f 0 ""
  | chained {links : List Link} (h : f.cause.link.Rests links) (verbosity : ℕ) :
    Listed f (verbosity + 1) ("\nError chain:\n" ++ String.join
      ((f.contexts ++ links.map Link.text).mapIdx fun i text ↦ s!"  {i}: {text}\n"))

/-- The exit code for a failure, and what is written to the two streams. -/
inductive Told (f : Failure) (verbosity : ℕ) : Int32 → String → String → Prop
  | skipped {e : CheckError} (hcause : f.cause = .check e) (hskip : e.isSkip = true) :
    Told f verbosity e.exitCode (e.userMessage ++ "\n") ""
  | failed {e : CheckError} {listing : String} (hcause : f.cause = .check e)
    (hskip : e.isSkip = false) (hlisting : Listed f verbosity listing) :
    Told f verbosity e.exitCode "" (e.userMessage ++ "\n" ++ listing)
  | unknown {head listing : String} (hcause : ∀ e, f.cause ≠ .check e)
    (hhead : (f.contexts ++ [f.cause.message]).head? = some head)
    (hlisting : Listed f verbosity listing) :
    Told f verbosity 1 "" ("Error: " ++ head ++ "\n" ++ listing)

theorem rests_command (e : CommandError) :
    ∃ links, (Link.command e).Rests links ∧ e.chain = links.map Link.text := by
  cases e with
  | io command source => exact ⟨_, .upon rfl (.alone rfl), rfl⟩
  | notFound | permissionDenied | interrupted | unexpected => exact ⟨_, .alone rfl, rfl⟩

theorem rests_foreign (text : String) (beneath : List String) :
    ∃ links, (Link.foreign ⟨text, beneath⟩).Rests links ∧
      text :: beneath = links.map Link.text := by
  induction beneath generalizing text with
  | nil => exact ⟨_, .alone rfl, rfl⟩
  | cons next beneath ih =>
    obtain ⟨links, hlinks, htexts⟩ := ih next
    exact ⟨_, .upon rfl hlinks, congrArg (text :: ·) htexts⟩

theorem Cause.rests (cause : Cause) :
    ∃ links, cause.link.Rests links ∧ cause.chain = links.map Link.text := by
  cases cause with
  | command e => exact rests_command e
  | other e => exact rests_foreign e.text e.beneath
  | check e =>
    cases e with
    | spawn stage source =>
      obtain ⟨links, hlinks, htexts⟩ := rests_command source
      exact ⟨_, .upon rfl hlinks, congrArg (_ :: ·) htexts⟩
    | missingCredential | configuration | stageFailed | interrupted => exact ⟨_, .alone rfl, rfl⟩

theorem written_event_text (stream stream' : Stream) (event : Event) (text : String) :
    written stream [⟨.log event, ()⟩, ⟨.print stream' text, ()⟩] =
      if stream' = stream then text else "" := by
  cases stream <;> cases stream' <;> simp [written, printed?, List.filterMap_cons]

namespace Failure

theorem numbered_eq_mapIdx (first : ℕ) (texts : List String) : numbered first texts =
    texts.mapIdx fun i text ↦ s!"  {i + first}: {text}\n" := by
  induction texts generalizing first with
  | nil => rfl
  | cons text texts ih =>
    rw [numbered, ih, List.mapIdx_cons, Nat.zero_add]
    simp only [Nat.add_right_comm _ 1, Nat.add_assoc]

theorem listing_listed (f : Failure) (verbosity : ℕ) :
    Listed f verbosity (f.listing verbosity) := by
  cases verbosity with
  | zero => exact .quiet
  | succ verbosity =>
    obtain ⟨links, hlinks, htexts⟩ := f.cause.rests
    have hlisting : f.listing (verbosity + 1) = "\nError chain:\n" ++ String.join
        ((f.contexts ++ links.map Link.text).mapIdx fun i text ↦ s!"  {i}: {text}\n") := by
      rw [listing, if_pos (Nat.le_add_left 1 verbosity), numbered_eq_mapIdx, chain, htexts]
      rfl
    rw [hlisting]
    exact .chained hlinks verbosity

theorem headline_eq (f : Failure) :
    (f.contexts ++ [f.cause.message]).head? = some f.headline := by
  rw [headline]
  cases f.contexts <;> rfl

theorem report_ensures (f : Failure) (verbosity : ℕ) : (f.report verbosity).Ensures fun code t ↦
    Told f verbosity code (written .output t) (written .errors t) := by
  have hlisting := f.listing_listed verbosity
  unfold report
  split
  case h_1 e hcause =>
    split
    case isTrue hskip =>
      intro _ _
      change Told f verbosity e.exitCode (written .output [_, _]) (written .errors [_, _])
      rw [written_event_text, written_event_text]
      exact .skipped hcause hskip
    case isFalse hskip =>
      intro _ _
      change Told f verbosity e.exitCode (written .output [_, _]) (written .errors [_, _])
      rw [written_event_text, written_event_text]
      exact .failed hcause (eq_false_of_ne_true hskip) hlisting
  case h_2 hcause =>
    intro _ _
    change Told f verbosity 1 (written .output [_, _]) (written .errors [_, _])
    rw [written_event_text, written_event_text]
    exact .unknown hcause f.headline_eq hlisting

/-- Whoever answers, a failure is reported as its cause wants. -/
theorem report_told (f : Failure) (verbosity : ℕ) (w : Responder Request Request.Reply) :
    Told f verbosity ((f.report verbosity).play w []).1
      (written .output ((f.report verbosity).play w []).2)
      (written .errors ((f.report verbosity).play w []).2) := by
  obtain ⟨t, ht, htold⟩ := (f.report_ensures verbosity).play w []
  rw [ht, List.nil_append]
  exact htold

end Failure

end IngestCheck.Check
