import IngestCheck.Proofs.Check.Course
import IngestCheck.Proofs.Interruption.System

namespace IngestCheck.Interruption

structure Watch where
  /-- Whether a child was started, and neither reaped nor lost by a wait that failed. -/
  child : Bool := false
  heldBack : Bool := false
  stopSeen : Bool := false
  /-- The commands before which the flag was found unset. -/
  cleared : List Command := []

def watch : Monitor Request Request.Reply Watch where
  next w q r := match q, r with
    | .runner _ .stopping, true => { w with heldBack := true, stopSeen := true }
    | .runner c .stopping, false => { w with cleared := w.cleared ++ [c] }
    | .runner _ (.launch _), .ok () => { w with child := true }
    | .runner _ .await, .ended _ _ | .runner _ .await, .failed _ => { w with child := false }
    | .runner _ .await, .stopped => { w with stopSeen := true }
    | .runner _ .reap, _ => { w with child := false }
    | _, _ => w
  allows w
    | .check (.run _) => False
    | .check (.present _) => w.child = false
    | .check (.remove _) => w.child = false
    | .check _ => True
    | .runner c (.launch c') => c' = c ∧ c ∈ w.cleared ∧ w.heldBack = false ∧ w.child = false
    | .runner _ .await => w.child = true
    | .runner _ .kill | .runner _ .reap => w.child = true ∧ w.stopSeen = true
    | .runner _ _ => True

theorem watch_next_check (w : Watch) (q : Check.Request) (r : q.Reply) :
    watch.next w (.check q) r = w := by cases q <;> rfl

inductive Attended (c : Command) (w : Watch) : Answer → Watch → Prop
  | heldBack : Attended c w (.error .interrupted) { w with heldBack := true, stopSeen := true }
  | stopped : Attended c w (.error .interrupted)
    { w with cleared := w.cleared ++ [c], stopSeen := true }
  | answered {a : Answer} (h : a ≠ .error .interrupted) :
    Attended c w a { w with cleared := w.cleared ++ [c] }

def runnerWatch (c : Command) : Monitor Children.Request Children.Request.Reply Watch where
  next w q r := watch.next w (.runner c q) r
  allows w q := watch.allows w (.runner c q)

section

variable (c : Command) (w : Watch)

@[simp] theorem runnerWatch_allows_log (e : Event) : (runnerWatch c).allows w (.log e) := trivial

@[simp] theorem runnerWatch_next_log (e : Event) (r : Unit) :
    (runnerWatch c).next w (.log e) r = w := rfl

theorem announce_obeys : (Children.announce c).Obeys (runnerWatch c) (fun _ w' ↦ w' = w) w := by
  unfold Children.announce
  simp only [Children.log, Script.bind_eq, Script.request_bind, Script.pure_eq, Script.obeys_ask,
    runnerWatch_allows_log, runnerWatch_next_log, true_and]
  intro _
  split <;> cases c.directory <;> simp [Script.request]

theorem conclude_obeys (status : ExitStatus) (elapsed : Nat) :
    (Children.conclude c status elapsed).Obeys (runnerWatch c) (fun _ w' ↦ w' = w) w := by
  cases status <;> exact ⟨trivial, fun _ ↦ rfl⟩

end

theorem strike_obeys (c : Command) {w : Watch} (hchild : w.child = true)
    (hseen : w.stopSeen = true) :
    (Children.strike c).Obeys (runnerWatch c) (fun _ w' ↦ w' = w) w := by
  refine ⟨⟨hchild, hseen⟩, fun killed ↦ ?_⟩
  cases killed with
  | ok _ => rfl
  | error e => exact ⟨trivial, fun _ ↦ rfl⟩

theorem collect_obeys (c : Command) {w : Watch} (hchild : w.child = true)
    (hseen : w.stopSeen = true) : (Children.collect c).Obeys (runnerWatch c)
      (fun _ w' ↦ w' = { w with child := false }) w := by
  refine ⟨⟨hchild, hseen⟩, fun reaped ↦ ?_⟩
  cases reaped with
  | ok _ => rfl
  | error e => exact ⟨trivial, fun _ ↦ rfl⟩

theorem stop_obeys (c : Command) {w : Watch} (hchild : w.child = true)
    (hseen : w.stopSeen = true) : (Children.stop c).Obeys (runnerWatch c)
      (fun _ w' ↦ w' = { w with child := false }) w := by
  refine ⟨trivial, fun _ ↦ (strike_obeys c hchild hseen).bind ?_⟩
  rintro _ _ rfl
  exact collect_obeys c hchild hseen

theorem launchError_ne_interrupted (c : Command) (e : HostError) :
    Children.launchError c e ≠ .interrupted := by
  unfold Children.launchError
  split <;> simp

theorem run_attended (c : Command) {w : Watch} (hheld : w.heldBack = false)
    (hchild : w.child = false) : (Children.run c).Obeys (runnerWatch c) (Attended c w) w := by
  obtain ⟨child, heldBack, stopSeen, cleared⟩ := w
  obtain rfl : child = false := hchild
  refine ⟨trivial, fun stop ↦ ?_⟩
  cases stop with
  | true => exact ⟨trivial, fun _ ↦ .heldBack⟩
  | false =>
    refine (announce_obeys c _).bind ?_
    rintro _ _ rfl
    refine ⟨⟨rfl, by simp [runnerWatch, watch], hheld, rfl⟩, fun launched ↦ ?_⟩
    cases launched with
    | error e =>
      refine ⟨trivial, fun _ ↦ .answered ?_⟩
      simpa using launchError_ne_interrupted c e
    | ok _ =>
      refine ⟨rfl, fun awaited ↦ ?_⟩
      cases awaited with
      | stopped =>
        refine (stop_obeys c rfl rfl).bind ?_
        rintro _ _ rfl
        exact .stopped
      | failed e => exact .answered (by simp)
      | ended ending elapsed =>
        refine (conclude_obeys c _ _ _).bind ?_
        rintro _ _ rfl
        exact .answered (by simp)

theorem attend_obeys (c : Command) {w : Watch} (hheld : w.heldBack = false)
    (hchild : w.child = false) : (attend c).Obeys watch (Attended c w) w := by
  have hanswer (q : Children.Request) (v v' : Watch) (hv : v = v')
      (hq : (runnerWatch c).allows v q) :
      (Script.request (Request.runner c q)).Obeys watch
        (fun r v' ↦ (runnerWatch c).next v q r = v') v' := by
    subst hv
    exact ⟨hq, fun _ ↦ rfl⟩
  refine (Script.Obeys.graft hanswer (run_attended c hheld hchild) rfl).mono ?_
  rintro a _ ⟨v, hv, rfl⟩
  exact hv

/-- What an onlooker knows between two questions of the check, put in terms of the calls. -/
structure Tied (calls : List Check.Call) (w : Watch) : Prop where
  child : w.child = false
  heldBack : w.heldBack = true → ∃ call ∈ calls, call.2 = .error .interrupted
  stopSeen : ∀ call ∈ calls, call.2 = .error .interrupted → w.stopSeen = true
  cleared : ∀ call ∈ calls, call.2 ≠ .error .interrupted → call.1 ∈ w.cleared

theorem Tied.attended {calls : List Check.Call} {w w' : Watch} {c : Command} {a : Answer}
    (h : Tied calls w) (ha : Attended c w a w') : Tied (calls ++ [(c, a)]) w' := by
  have hlast {P : Check.Call → Prop} (hcalls : ∀ call ∈ calls, P call) (hc : P (c, a)) :
      ∀ call ∈ calls ++ [(c, a)], P call := by
    intro call hcall
    rcases List.mem_append.mp hcall with hcall | hcall
    · exact hcalls call hcall
    · rwa [List.mem_singleton.mp hcall]
  cases ha with
  | heldBack =>
    exact {
      child := h.child
      heldBack := fun _ ↦ ⟨(c, _), by simp, rfl⟩
      stopSeen := fun _ _ _ ↦ rfl
      cleared := hlast h.cleared (absurd rfl) }
  | stopped =>
    exact {
      child := h.child
      heldBack := fun _ ↦ ⟨(c, _), by simp, rfl⟩
      stopSeen := fun _ _ _ ↦ rfl
      cleared := hlast (fun call hcall hne ↦ List.mem_append_left _ (h.cleared call hcall hne))
        (absurd rfl) }
  | answered hne =>
    exact {
      child := h.child
      heldBack := fun hheld ↦ by
        obtain ⟨call, hcall, hint⟩ := h.heldBack hheld
        exact ⟨call, List.mem_append_left _ hcall, hint⟩
      stopSeen := hlast h.stopSeen fun hint ↦ absurd hint hne
      cleared := hlast (fun call hcall hne ↦ List.mem_append_left _ (h.cleared call hcall hne))
        fun _ ↦ by simp }

theorem serve_obeys (q : Check.Request) (calls : List Check.Call) (w : Watch) (h : Tied calls w)
    (hq : Check.callMonitor.allows calls q) :
    (serve q).Obeys watch (fun r w' ↦ Tied (Check.callMonitor.next calls q r) w') w := by
  have hother (hne : ∀ c, q ≠ .run c) (hallowed : watch.allows w (.check q)) :
      (Script.request (Request.check q)).Obeys watch
        (fun r w' ↦ Tied (Check.callMonitor.next calls q r) w') w := by
    refine ⟨hallowed, fun r ↦ ?_⟩
    rw [watch_next_check, Script.obeys_done, Check.callMonitor_next_other hne]
    exact h
  cases q with
  | log | print => exact hother nofun trivial
  | present | remove => exact hother nofun h.child
  | run c =>
    have hheld : w.heldBack = false := by
      by_contra hheld
      obtain ⟨call, hcall, hint⟩ := h.heldBack (by simpa using hheld)
      exact hq call hcall hint
    refine (attend_obeys c hheld h.child).mono fun a w' ha ↦ ?_
    rw [Check.callMonitor_next_run]
    exact h.attended ha

inductive OfIngest : Result → Prop
  | failed (code : Int32) : OfIngest (.error (.stageFailed .ingest code))
  | notRun (e : CommandError) : OfIngest (.error (.spawn .ingest e))

/-- What an onlooker knows of a result: an interruption comes from a flag that was seen, and all
but an interruption or a failed ingest step takes a copy step that found the flag unset. -/
structure Concluded (s : Settings) (key : Bytes) (r : Result) (w : Watch) : Prop where
  child : w.child = false
  stopSeen : r = .error .interrupted → w.stopSeen = true
  cleared : r = .error .interrupted ∨ OfIngest r ∨ (Plan.ofSettings s key).copy ∈ w.cleared

theorem concluded_of_course {s : Settings} {key : Bytes} (hkey : s.apiKey? = some key)
    {calls : List Check.Call} {r : Result} {w : Watch} (h : Check.Course s false calls r)
    (hw : Tied calls w) : Concluded s key r w := by
  cases h with
  | skipped hnone => simp [hkey] at hnone
  | @carriedOut key' _ _ hkey' hplan =>
    obtain rfl : key' = key := Option.some.inj (hkey'.symm.trans hkey)
    refine ⟨hw.child, fun hr ↦ ?_, ?_⟩
    · cases hplan with
      | ingestInterrupted | diffInterrupted | copyInterrupted =>
        exact hw.stopSeen _ (List.mem_of_getLast? rfl) rfl
      | ingestNotRun | ingestFailed | completed => simp at hr
    · cases hplan with
      | ingestInterrupted | diffInterrupted | copyInterrupted => exact .inl rfl
      | ingestNotRun => exact .inr (.inl (.notRun _))
      | ingestFailed => exact .inr (.inl (.failed _))
      | @completed _ _ c _ _ hc => exact .inr (.inr (hw.cleared (_, c) (by simp) hc))

theorem program_obeys {s : Settings} {key : Bytes} (hkey : s.apiKey? = some key) :
    (program s).Obeys watch (Concluded s key) {} := by
  have htied : Tied [] {} := ⟨rfl, by simp, by simp, by simp⟩
  refine (Script.Obeys.graft serve_obeys (Check.run_obeys s false) htied).mono ?_
  rintro r w ⟨calls, hcourse, hw⟩
  exact concluded_of_course hkey hcourse hw

end IngestCheck.Interruption
