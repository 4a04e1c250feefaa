import IngestCheck.CommandLine.Program
import IngestCheck.Proofs.Check.Course
import IngestCheck.Proofs.Settings.Resolution
import Mathlib.Data.List.Nodup

namespace IngestCheck

theorem CommandError.exitCode_ne_zero (e : CommandError) : e.exitCode ≠ 0 := by
  cases e <;> simp [exitCode]

/-- The errors that come about: a step only fails with a code, and an interruption is not taken for
a command that cannot be run. -/
inductive CheckError.Arises : CheckError → Prop
  | missingCredential (name : String) : Arises (.missingCredential name)
  | configuration (text : String) : Arises (.configuration text)
  | stageFailed (stage : Stage) {code : Int32} (h : code ≠ 0) : Arises (.stageFailed stage code)
  | spawn (stage : Stage) {e : CommandError} (h : e ≠ .interrupted) : Arises (.spawn stage e)
  | interrupted : Arises .interrupted

theorem CheckError.Arises.exitCode_ne_zero {e : CheckError} (h : e.Arises) : e.exitCode ≠ 0 := by
  cases h with
  | missingCredential | configuration | interrupted => simp [CheckError.exitCode]
  | stageFailed stage h => exact h
  | spawn stage h => exact CommandError.exitCode_ne_zero _

theorem CheckError.Arises.ne_stageFailed_zero {e : CheckError} (h : e.Arises) (stage : Stage) :
    e ≠ .stageFailed stage 0 := by
  rintro rfl
  exact h.exitCode_ne_zero rfl

theorem CheckError.Arises.ne_spawn_interrupted {e : CheckError} (h : e.Arises) (stage : Stage) :
    e ≠ .spawn stage .interrupted := by
  rintro rfl
  cases h with
  | spawn _ hne => exact hne rfl

theorem Settings.resolve_arises {case : Case} {s : Surroundings} {o : Overrides} {e : CheckError}
    (h : resolve case s o = .error e) : e.Arises := by
  obtain ⟨text, rfl⟩ := resolve_eq_error h
  exact .configuration text

namespace Check

def finalCode : Except CheckError Outcome → Int32
  | .ok outcome => outcome.exitCode
  | .error e => e.exitCode

/-- Somebody who answers commands, knowing the calls so far. -/
abbrev Executor := List Call → Command → Answer

/-- Commands are answered by an executor, whatever else is asked. -/
def Executor.Serves (x : Executor) (w : Responder Request Request.Reply) : Prop :=
  ∀ past c, w past (.run c) = x (calls past) c

/-- Calls with the answers that an executor gives after some others. -/
def Executor.Gives (x : Executor) : List Call → List Call → Prop
  | _, [] => True
  | past, (c, a) :: rest => x past c = a ∧ x.Gives (past ++ [(c, a)]) rest

/-- The steps that count pass, and the one between them is not interrupted. -/
def Executor.Passes (x : Executor) (plan : Plan) : Prop :=
  ∃ (ingest : ExitStatus) (diff : Answer) (copy : ExitStatus),
    x [] plan.ingest = .ok ingest ∧ ingest.code = 0 ∧
    x [(plan.ingest, .ok ingest)] plan.diff = diff ∧ diff ≠ .error .interrupted ∧
    x [(plan.ingest, .ok ingest), (plan.diff, diff)] plan.copy = .ok copy ∧ copy.code = 0

theorem Executor.Serves.gives {α : Type} {x : Executor} {w : Responder Request Request.Reply}
    (h : x.Serves w) (p : Routine α) (past : Transcript) :
    ∃ t, (p.play w past).2 = past ++ t ∧ x.Gives (calls past) (calls t) := by
  induction p generalizing past with
  | done a => exact ⟨[], (List.append_nil past).symm, trivial⟩
  | ask q next ih =>
    obtain ⟨t, ht, hgives⟩ := ih (w past q) (past ++ [⟨q, w past q⟩])
    refine ⟨⟨q, w past q⟩ :: t, ?_, ?_⟩
    · rw [Script.play_ask, ht, ← List.append_cons]
    · rw [calls, List.filterMap_append, ← calls, ← calls] at hgives
      -- only a command adds to the calls that the executor knows of
      cases q with
      | run c => exact ⟨(h past c).symm, hgives⟩
      | log | print | present | remove =>
        change x.Gives (calls past ++ []) (calls t) at hgives
        rwa [List.append_nil] at hgives

def Passed (plan : Plan) (calls : List Call) : Prop :=
  ∃ ingest copy : ExitStatus, (plan.ingest, .ok ingest) ∈ calls ∧ ingest.code = 0 ∧
    (∀ a, (plan.diff, a) ∈ calls → a ≠ .error .interrupted) ∧
    (plan.copy, .ok copy) ∈ calls ∧ copy.code = 0

theorem recordedCode_eq_zero {a : Answer} (h : recordedCode a = 0) :
    ∃ status : ExitStatus, a = .ok status ∧ status.code = 0 := by
  cases a with
  | ok status => exact ⟨status, rfl, h⟩
  | error e => exact absurd h e.exitCode_ne_zero

theorem answer_unique {calls : List Call} (h : (calls.map Prod.fst).Nodup) {c : Command}
    {a b : Answer} (ha : (c, a) ∈ calls) (hb : (c, b) ∈ calls) : a = b :=
  congrArg Prod.snd (List.inj_on_of_nodup_map h ha hb rfl)

theorem PlanCourse.arises {plan : Plan} {calls : List Call} {e : CheckError}
    (h : PlanCourse plan calls (.error e)) : e.Arises := by
  cases h with
  | ingestInterrupted | diffInterrupted | copyInterrupted => exact .interrupted
  | ingestNotRun he => exact .spawn _ he
  | ingestFailed hcode => exact .stageFailed _ hcode

theorem Course.arises {s : Settings} {dryRun : Bool} {calls : List Call} {e : CheckError}
    (h : Course s dryRun calls (.error e)) : e.Arises := by
  cases h with
  | skipped => exact .missingCredential _
  | carriedOut hkey hplan => exact hplan.arises

section

variable {s : Settings} {key : Bytes} {calls : List Call} {r : Except CheckError Outcome}

theorem PlanCourse.copy_notMem {e : CheckError}
    (h : PlanCourse (.ofSettings s key) calls (.error e)) (status : ExitStatus) :
    ((Plan.ofSettings s key).copy, .ok status) ∉ calls := by
  obtain ⟨-, hingest, hdiff⟩ := steps_ne s key
  -- an interrupted copy is a call of the same command, and its answer is no status
  cases h with
  | ingestInterrupted | ingestNotRun | ingestFailed => simp [Ne.symm hingest]
  | diffInterrupted | copyInterrupted => simp [Ne.symm hingest, Ne.symm hdiff]

theorem PlanCourse.finalCode_eq_zero_iff (h : PlanCourse (.ofSettings s key) calls r) :
    finalCode r = 0 ↔ Passed (.ofSettings s key) calls := by
  cases r with
  | error e =>
    refine iff_of_false h.arises.exitCode_ne_zero ?_
    rintro ⟨-, copy, -, -, -, hcopy, -⟩
    exact h.copy_notMem copy hcopy
  | ok outcome =>
    have hnodup : (calls.map Prod.fst).Nodup := by
      cases h
      exact nodup_steps s key
    cases h with
    | @completed ingest d c hcode hd hc =>
      constructor
      · intro hzero
        obtain ⟨copy, rfl, hcopy⟩ := recordedCode_eq_zero hzero
        refine ⟨ingest, copy, by simp, hcode, fun a ha ↦ ?_, by simp, hcopy⟩
        rwa [answer_unique hnodup ha (b := d) (by simp)]
      · rintro ⟨-, copy, -, -, -, hlast, hcopy⟩
        obtain rfl := answer_unique hnodup hlast (b := c) (by simp)
        exact hcopy

theorem PlanCourse.finalCode_eq_zero_iff_passes {plan : Plan} {x : Executor}
    (h : PlanCourse plan calls r) (hx : x.Gives [] calls) : finalCode r = 0 ↔ x.Passes plan := by
  -- the answers along a course are the executor's own, and `Passes` asks for them in that order
  cases h with
  | ingestInterrupted =>
    obtain ⟨hingest, -⟩ := hx
    refine iff_of_false CheckError.Arises.interrupted.exitCode_ne_zero ?_
    simp [Executor.Passes, hingest]
  | ingestNotRun he =>
    obtain ⟨hingest, -⟩ := hx
    refine iff_of_false (CheckError.Arises.spawn .ingest he).exitCode_ne_zero ?_
    simp [Executor.Passes, hingest]
  | ingestFailed hcode =>
    obtain ⟨hingest, -⟩ := hx
    refine iff_of_false hcode ?_
    simp [Executor.Passes, hingest, hcode]
  | diffInterrupted hcode =>
    obtain ⟨hingest, hdiff, -⟩ := hx
    refine iff_of_false CheckError.Arises.interrupted.exitCode_ne_zero ?_
    rintro ⟨ingest, d, copy, hingest', -, hdiff', hd, -⟩
    obtain rfl := Except.ok.inj (hingest.symm.trans hingest')
    exact hd (hdiff'.symm.trans hdiff)
  | copyInterrupted hcode hd =>
    obtain ⟨hingest, hdiff, hcopy, -⟩ := hx
    refine iff_of_false CheckError.Arises.interrupted.exitCode_ne_zero ?_
    rintro ⟨ingest, d, copy, hingest', -, hdiff', -, hcopy', -⟩
    obtain rfl := Except.ok.inj (hingest.symm.trans hingest')
    obtain rfl := hdiff.symm.trans hdiff'
    cases hcopy.symm.trans hcopy'
  | @completed ingest d c hcode hd hc =>
    obtain ⟨hingest, hdiff, hcopy, -⟩ := hx
    constructor
    · intro hzero
      obtain ⟨copy, rfl, hcode'⟩ := recordedCode_eq_zero hzero
      exact ⟨ingest, d, copy, hingest, hcode, hdiff, hd, hcopy, hcode'⟩
    · rintro ⟨ingest', d', copy, hingest', -, hdiff', -, hcopy', hcode'⟩
      obtain rfl := Except.ok.inj (hingest.symm.trans hingest')
      obtain rfl := hdiff.symm.trans hdiff'
      obtain rfl := hcopy.symm.trans hcopy'
      exact hcode'

theorem Course.finalCode_eq_zero_iff {dryRun : Bool} {good : Bytes → Prop}
    (h : Course s dryRun calls r)
    (hgood : ∀ key, PlanCourse (.ofSettings s key) calls r → (finalCode r = 0 ↔ good key)) :
    finalCode r = 0 ↔ ∃ key, s.apiKey? = some key ∧ (dryRun = true ∨ good key) := by
  cases h with
  | skipped hkey => simp [finalCode, CheckError.exitCode, hkey]
  | announced hkey => simp [finalCode, hkey]
  | carriedOut hkey hplan => simp [hgood _ hplan, hkey]

end

theorem report_obeys (e : CheckError) (verbosity : Nat) (past : List Call) :
    (Failure.report ⟨.check e, []⟩ verbosity).Obeys callMonitor
      (fun code calls ↦ code = e.exitCode ∧ calls = past) past := by
  have hprint (stream : Stream) (text : String) :
      (print stream text).Obeys callMonitor (fun _ calls ↦ calls = past) past := request_obeys nofun
  unfold Failure.report
  dsimp only
  split
  · refine log_bind_obeys ((hprint _ _).bind fun _ calls hcalls ↦ ⟨rfl, hcalls⟩)
  · refine log_bind_obeys ((hprint _ _).bind fun _ calls hcalls ↦ ⟨rfl, hcalls⟩)

end Check

namespace CommandLine

open Check

variable (i : Invocation) (words : List Bytes) (s : Surroundings)

inductive Comes : Int32 → List Call → Prop
  | unresolved {e : CheckError} (h : Settings.resolve .octoai s i.overrides = .error e) :
    Comes e.exitCode []
  | checked {settings : Settings} {calls : List Call} {r : Except CheckError Outcome}
    (h : Settings.resolve .octoai s i.overrides = .ok settings)
    (hcourse : Course settings i.dryRun calls r) : Comes (finalCode r) calls

theorem program_obeys : (program i words s).Obeys callMonitor (Comes i s) [] := by
  refine log_bind_obeys (log_bind_obeys ?_)
  split
  · rename_i e he
    refine (report_obeys e i.verbosity []).mono ?_
    rintro _ _ ⟨rfl, rfl⟩
    exact .unresolved he
  · rename_i settings hsettings
    refine log_bind_obeys ((run_obeys settings i.dryRun).bind ?_)
    rintro r calls hcourse
    cases r with
    | ok outcome => exact .checked hsettings hcourse
    | error e =>
      refine (report_obeys e i.verbosity calls).mono ?_
      rintro _ _ ⟨rfl, rfl⟩
      exact .checked hsettings hcourse

theorem Comes.eq_zero_iff {i : Invocation} {s : Surroundings} {code : Int32} {calls : List Call}
    {good : Settings → Bytes → Prop} (h : Comes i s code calls)
    (hgood : ∀ settings key r, PlanCourse (.ofSettings settings key) calls r →
      (finalCode r = 0 ↔ good settings key)) : code = 0 ↔
      ∃ settings key, Settings.resolve .octoai s i.overrides = .ok settings ∧
        s.value? Case.octoai.credentialVariable = some key ∧ key ≠ [] ∧
        (i.dryRun = true ∨ good settings key) := by
  cases h with
  | unresolved he =>
    refine iff_of_false (Settings.resolve_arises he).exitCode_ne_zero ?_
    rintro ⟨settings, key, hsettings, -⟩
    rw [he] at hsettings
    cases hsettings
  | @checked settings calls r hsettings hcourse =>
    rw [hcourse.finalCode_eq_zero_iff fun key ↦ hgood settings key r]
    simp [Settings.apiKey?_eq_some_iff hsettings, hsettings, and_assoc]

theorem Comes.planCourse {i : Invocation} {s : Surroundings} {code : Int32} {calls : List Call}
    (h : Comes i s code calls) {settings : Settings} {key : Bytes}
    (hsettings : Settings.resolve .octoai s i.overrides = .ok settings)
    (hkey : settings.apiKey? = some key) (hdryRun : i.dryRun = false) :
    ∃ r, PlanCourse (.ofSettings settings key) calls r := by
  cases h with
  | unresolved he =>
    rw [hsettings] at he
    cases he
  | checked hsettings' hcourse =>
    obtain rfl := Except.ok.inj (hsettings.symm.trans hsettings')
    rw [hdryRun] at hcourse
    exact ⟨_, hcourse.carriesOut hkey⟩

/-- Zero is the exit code of a dry run or of a check that passed, and of nothing else. -/
structure Faithful (i : Invocation) (words : List Bytes) (s : Surroundings)
    (w : Responder Request Request.Reply) : Prop where
  eq_zero_iff : ((program i words s).play w []).1 = 0 ↔
    ∃ settings key, Settings.resolve .octoai s i.overrides = .ok settings ∧
      s.value? Case.octoai.credentialVariable = some key ∧ key ≠ [] ∧
      (i.dryRun = true ∨
        Passed (.ofSettings settings key) (calls ((program i words s).play w []).2))
  pursued (settings : Settings) (key : Bytes) :
    Settings.resolve .octoai s i.overrides = .ok settings →
    s.value? Case.octoai.credentialVariable = some key → key ≠ [] → i.dryRun = false →
    Pursued (.ofSettings settings key) (calls ((program i words s).play w []).2)
  eq_zero_iff_passes (x : Executor) : x.Serves w → (((program i words s).play w []).1 = 0 ↔
    ∃ settings key, Settings.resolve .octoai s i.overrides = .ok settings ∧
      s.value? Case.octoai.credentialVariable = some key ∧ key ≠ [] ∧
      (i.dryRun = true ∨ x.Passes (.ofSettings settings key)))
  unresolved (case : Case) (o : Overrides) (e : CheckError) :
    Settings.resolve case s o = .error e → e.exitCode ≠ 0
  failed (settings : Settings) (dryRun : Bool) (e : CheckError) :
    ((run settings dryRun).play w []).1 = .error e →
      e.exitCode ≠ 0 ∧ (∀ stage, e ≠ .stageFailed stage 0) ∧ ∀ stage, e ≠ .spawn stage .interrupted

/-- Whatever the surroundings are and whoever answers, an exit code of zero is no false success. -/
theorem program_faithful (i : Invocation) (words : List Bytes) (s : Surroundings)
    (w : Responder Request Request.Reply) : Faithful i words s w := by
  have hcomes := (program_obeys i words s).play w
  rw [callMonitor_after, List.nil_append] at hcomes
  exact {
    eq_zero_iff := hcomes.eq_zero_iff fun _ _ _ hplan ↦ hplan.finalCode_eq_zero_iff
    pursued := fun settings key hsettings hvalue hne hdryRun ↦ by
      have hkey := (Settings.apiKey?_eq_some_iff hsettings).mpr ⟨hvalue, hne⟩
      obtain ⟨r, hplan⟩ := hcomes.planCourse hsettings hkey hdryRun
      exact hplan.pursued
    eq_zero_iff_passes := fun x hx ↦ by
      obtain ⟨t, ht, hgives⟩ := hx.gives (program i words s) []
      rw [List.nil_append] at ht
      rw [ht] at hcomes
      exact hcomes.eq_zero_iff fun _ _ _ hplan ↦ hplan.finalCode_eq_zero_iff_passes hgives
    unresolved := fun _ _ _ h ↦ (Settings.resolve_arises h).exitCode_ne_zero
    failed := fun settings dryRun e h ↦ by
      have harises : e.Arises := by
        have hcourse := play_course settings dryRun w
        rw [h] at hcourse
        exact hcourse.arises
      exact ⟨harises.exitCode_ne_zero, harises.ne_stageFailed_zero,
        harises.ne_spawn_interrupted⟩ }

end CommandLine

end IngestCheck
