import IngestCheck.Check.Pipeline
import IngestCheck.Proofs.Script.Monitor

namespace IngestCheck.Check

abbrev Call := Command × Answer

abbrev Transcript := List (Exchange Request Request.Reply)

def call? : Exchange Request Request.Reply → Option Call
  | ⟨.run c, a⟩ => some (c, a)
  | _ => none

def calls (t : Transcript) : List Call := t.filterMap call?

/-- Looks on which commands are run. Once one was interrupted no other may follow. -/
def callMonitor : Monitor Request Request.Reply (List Call) where
  next calls q r := calls ++ (call? ⟨q, r⟩).toList
  allows calls
    | .run _ => ∀ call ∈ calls, call.2 ≠ .error .interrupted
    | _ => True

theorem callMonitor_after (past : List Call) (t : Transcript) :
    callMonitor.after past t = past ++ calls t := by
  induction t generalizing past with
  | nil => simp [Monitor.after, calls]
  | cons e t ih =>
    have h : callMonitor.after past (e :: t) =
        callMonitor.after (past ++ (call? e).toList) t := rfl
    rw [h, ih, calls, calls, List.filterMap_cons]
    cases call? e <;> simp

inductive StrictEnd (stage : Stage) : Answer → Except CheckError Unit → Prop
  | passed {status : ExitStatus} (h : status.code = 0) : StrictEnd stage (.ok status) (.ok ())
  | failed {status : ExitStatus} (h : status.code ≠ 0) :
    StrictEnd stage (.ok status) (.error (.stageFailed stage status.code))
  | interrupted : StrictEnd stage (.error .interrupted) (.error .interrupted)
  | notRun {e : CommandError} (h : e ≠ .interrupted) :
    StrictEnd stage (.error e) (.error (.spawn stage e))

theorem StrictEnd.unique {stage : Stage} {a : Answer} {r r' : Except CheckError Unit}
    (h : StrictEnd stage a r) (h' : StrictEnd stage a r') : r = r' := by
  cases h with
  | passed hcode =>
    cases h' with
    | passed => rfl
    | failed hcode' => exact absurd hcode hcode'
  | failed hcode =>
    cases h' with
    | passed hcode' => exact absurd hcode' hcode
    | failed => rfl
  | interrupted =>
    cases h' with
    | interrupted => rfl
    | notRun he => exact absurd rfl he
  | notRun he =>
    cases h' with
    | interrupted => exact absurd rfl he
    | notRun => rfl

def recordedCode : Answer → Int32
  | .ok status => status.code
  | .error e => e.exitCode

inductive RelaxedEnd : Answer → Except CheckError Int32 → Prop
  | interrupted : RelaxedEnd (.error .interrupted) (.error .interrupted)
  | passed {a : Answer} (h : a ≠ .error .interrupted) : RelaxedEnd a (.ok (recordedCode a))

section

variable {past : List Call}

@[simp] theorem callMonitor_next_run (c : Command) (a : Answer) :
    callMonitor.next past (.run c) a = past ++ [(c, a)] := by simp [callMonitor, call?]

theorem callMonitor_next_other {q : Request} (hq : ∀ c, q ≠ .run c) (r : q.Reply) :
    callMonitor.next past q r = past := by
  cases q with
  | run c => exact absurd rfl (hq c)
  | log | print | present | remove => exact List.append_nil past

theorem request_obeys {q : Request} (hq : ∀ c, q ≠ .run c) :
    (Script.request q).Obeys callMonitor (fun _ calls ↦ calls = past) past := by
  refine ⟨?_, callMonitor_next_other hq⟩
  cases q with
  | run c => exact absurd rfl (hq c)
  | log | print | present | remove => trivial

theorem log_bind_obeys {α : Type} {post : α → List Call → Prop} {level : Level} {source : Source}
    {message : String} {f : Unit → Routine α} (h : (f ()).Obeys callMonitor post past) :
    ((log level source message).bind f).Obeys callMonitor post past := by
  have hlog : (log level source message).Obeys callMonitor (fun _ calls ↦ calls = past) past :=
    request_obeys nofun
  refine hlog.bind fun _ calls hcalls ↦ ?_
  subst hcalls
  exact h

theorem runCommand_obeys (c : Command) (h : ∀ call ∈ past, call.2 ≠ .error .interrupted) :
    (runCommand c).Obeys callMonitor (fun a calls ↦ calls = past ++ [(c, a)]) past :=
  ⟨h, fun a ↦ by simp⟩

theorem strict_obeys (stage : Stage) (c : Command)
    (h : ∀ call ∈ past, call.2 ≠ .error .interrupted) :
    (strict stage c).Obeys callMonitor
      (fun r calls ↦ ∃ a, calls = past ++ [(c, a)] ∧ StrictEnd stage a r) past := by
  refine log_bind_obeys ?_
  refine (runCommand_obeys c h).bind ?_
  rintro a _ rfl
  split
  · split
    · exact ⟨_, rfl, .passed ‹_›⟩
    · exact ⟨_, rfl, .failed ‹_›⟩
  · exact ⟨_, rfl, .interrupted⟩
  · rename_i e he
    exact ⟨_, rfl, .notRun he⟩

theorem relaxed_obeys (stage : Stage) (c : Command)
    (h : ∀ call ∈ past, call.2 ≠ .error .interrupted) :
    (relaxed stage c).Obeys callMonitor
      (fun r calls ↦ ∃ a, calls = past ++ [(c, a)] ∧ RelaxedEnd a r) past := by
  refine log_bind_obeys ?_
  refine (runCommand_obeys c h).bind ?_
  rintro a _ rfl
  split
  · exact ⟨_, rfl, .passed (by simp)⟩
  · rename_i status _
    exact log_bind_obeys ⟨.ok status, rfl, .passed (by simp)⟩
  · exact ⟨_, rfl, .interrupted⟩
  · rename_i e he
    exact log_bind_obeys ⟨.error e, rfl, .passed (by simpa using he)⟩

theorem tidy_obeys (dir : Path) :
    (tidy dir).Obeys callMonitor (fun _ calls ↦ calls = past) past := by
  have hpresent : (present dir).Obeys callMonitor (fun _ calls ↦ calls = past) past :=
    request_obeys nofun
  have hremove : (remove dir).Obeys callMonitor (fun _ calls ↦ calls = past) past :=
    request_obeys nofun
  refine hpresent.bind ?_
  rintro there _ rfl
  split
  · refine log_bind_obeys ?_
    refine hremove.bind ?_
    rintro r _ rfl
    cases r <;> rfl
  · exact log_bind_obeys rfl

theorem tidyNoting_obeys (dir : Path) :
    (tidyNoting dir).Obeys callMonitor (fun _ calls ↦ calls = past) past := by
  refine (tidy_obeys dir).bind fun r calls hcalls ↦ ?_
  cases r with
  | ok there => exact hcalls
  | error e =>
    subst hcalls
    exact request_obeys nofun

theorem tidyAll_obeys (dirs : List Path) :
    (tidyAll dirs).Obeys callMonitor (fun _ calls ↦ calls = past) past := by
  induction dirs with
  | nil => rfl
  | cons dir rest ih =>
    refine (tidyNoting_obeys dir).bind fun _ calls hcalls ↦ ?_
    subst hcalls
    exact ih

theorem guarded_obeys {α : Type} {post : α → List Call → Prop} {dirs : List Path} {body : Routine α}
    (h : body.Obeys callMonitor post past) :
    (guarded dirs body).Obeys callMonitor post past := by
  refine log_bind_obeys ?_
  refine h.bind fun a calls ha ↦ (tidyAll_obeys dirs).bind fun _ calls' hcalls ↦ ?_
  subst hcalls
  exact ha

end

/-- The courses of a check that carries out its plan. -/
inductive PlanCourse (plan : Plan) : List Call → Except CheckError Outcome → Prop
  | ingestInterrupted : PlanCourse plan [(plan.ingest, .error .interrupted)] (.error .interrupted)
  | ingestNotRun {e : CommandError} (h : e ≠ .interrupted) :
    PlanCourse plan [(plan.ingest, .error e)] (.error (.spawn .ingest e))
  | ingestFailed {status : ExitStatus} (h : status.code ≠ 0) :
    PlanCourse plan [(plan.ingest, .ok status)] (.error (.stageFailed .ingest status.code))
  | diffInterrupted {status : ExitStatus} (h : status.code = 0) :
    PlanCourse plan [(plan.ingest, .ok status), (plan.diff, .error .interrupted)]
      (.error .interrupted)
  | copyInterrupted {status : ExitStatus} {d : Answer} (h : status.code = 0)
    (hd : d ≠ .error .interrupted) :
    PlanCourse plan [(plan.ingest, .ok status), (plan.diff, d), (plan.copy, .error .interrupted)]
      (.error .interrupted)
  | completed {status : ExitStatus} {d c : Answer} (h : status.code = 0)
    (hd : d ≠ .error .interrupted) (hc : c ≠ .error .interrupted) :
    PlanCourse plan [(plan.ingest, .ok status), (plan.diff, d), (plan.copy, c)]
      (.ok ⟨[(.ingest, 0), (.diff, recordedCode d), (.copy, recordedCode c)], recordedCode c⟩)

inductive Course (s : Settings) : Bool → List Call → Except CheckError Outcome → Prop
  | skipped {dryRun : Bool} (h : s.apiKey? = none) :
    Course s dryRun [] (.error (.missingCredential s.case.credentialVariable))
  | announced {key : Bytes} (h : s.apiKey? = some key) : Course s true [] (.ok {})
  | carriedOut {key : Bytes} {calls : List Call} {r : Except CheckError Outcome}
    (h : s.apiKey? = some key) (hplan : PlanCourse (.ofSettings s key) calls r) :
    Course s false calls r

theorem steps_obeys (folder : String) (plan : Plan) :
    (steps folder plan).Obeys callMonitor (fun r calls ↦ PlanCourse plan calls r) [] := by
  refine (strict_obeys .ingest plan.ingest (by simp)).bind ?_
  rintro _ _ ⟨_, rfl, hingest⟩
  cases hingest with
  | failed h => exact .ingestFailed h
  | interrupted => exact .ingestInterrupted
  | notRun h => exact .ingestNotRun h
  | passed h =>
    refine (relaxed_obeys .diff plan.diff (by simp)).bind ?_
    rintro _ _ ⟨d, rfl, hdiff⟩
    cases hdiff with
    | interrupted => exact .diffInterrupted h
    | passed hd =>
      refine (relaxed_obeys .copy plan.copy (by simpa using hd)).bind ?_
      rintro _ _ ⟨c, rfl, hcopy⟩
      cases hcopy with
      | interrupted => exact .copyInterrupted h hd
      | passed hc =>
        have hend : PlanCourse plan _ _ := .completed h hd hc
        dsimp only
        split
        · exact log_bind_obeys hend
        · exact log_bind_obeys hend

theorem body_obeys (s : Settings) (dryRun : Bool) :
    (body s dryRun).Obeys callMonitor (fun r calls ↦ Course s dryRun calls r) [] := by
  unfold body Settings.apiKey
  cases hkey : s.apiKey? with
  | none => exact .skipped hkey
  | some key =>
    cases dryRun with
    | true => exact ⟨trivial, fun _ ↦ .announced hkey⟩
    | false => exact (steps_obeys _ _).mono fun r calls h ↦ .carriedOut hkey h

theorem run_obeys (s : Settings) (dryRun : Bool) :
    (run s dryRun).Obeys callMonitor (fun r calls ↦ Course s dryRun calls r) [] :=
  guarded_obeys (body_obeys s dryRun)

/-- Whoever answers, a check takes one of its courses. -/
theorem play_course (s : Settings) (dryRun : Bool) (w : Responder Request Request.Reply) :
    Course s dryRun (calls ((run s dryRun).play w []).2) ((run s dryRun).play w []).1 := by
  simpa only [callMonitor_after, List.nil_append] using (run_obeys s dryRun).play w

theorem steps_ne (s : Settings) (key : Bytes) :
    let plan := Plan.ofSettings s key
    plan.ingest ≠ plan.diff ∧ plan.ingest ≠ plan.copy ∧ plan.diff ≠ plan.copy :=
  ⟨ne_of_apply_ne Command.secrets (List.cons_ne_nil key []),
    ne_of_apply_ne Command.secrets (List.cons_ne_nil key []),
    ne_of_apply_ne (fun c ↦ c.arguments.length) (Nat.ne_of_lt Nat.one_lt_two)⟩

theorem nodup_steps (s : Settings) (key : Bytes) :
    ((Plan.ofSettings s key).steps.map Prod.snd).Nodup := by
  obtain ⟨hdiff, hcopy, hlast⟩ := steps_ne s key
  simp [Plan.steps, hdiff, hcopy, hlast]

/-- Each step is run unless one before it keeps it from being run. -/
structure Pursued (plan : Plan) (calls : List Call) : Prop where
  ingest : ∃ a, (plan.ingest, a) ∈ calls
  diff (status : ExitStatus) : (plan.ingest, .ok status) ∈ calls → status.code = 0 →
    ∃ a, (plan.diff, a) ∈ calls
  copy (a : Answer) : (plan.diff, a) ∈ calls → a ≠ .error .interrupted →
    ∃ a, (plan.copy, a) ∈ calls

theorem PlanCourse.pursued {s : Settings} {key : Bytes} {calls : List Call}
    {r : Except CheckError Outcome} (h : PlanCourse (.ofSettings s key) calls r) :
    Pursued (.ofSettings s key) calls := by
  obtain ⟨hdiff, hcopy, hlast⟩ := steps_ne s key
  cases h with
  | ingestInterrupted | ingestNotRun => constructor <;> simp [hdiff.symm]
  | ingestFailed hcode => constructor <;> simp [hdiff.symm, hcode]
  | diffInterrupted hcode => constructor <;> simp [hdiff, hdiff.symm]
  | copyInterrupted | completed =>
    exact ⟨⟨_, .head _⟩, fun _ _ _ ↦ ⟨_, .tail _ (.head _)⟩,
      fun _ _ _ ↦ ⟨_, .tail _ (.tail _ (.head _))⟩⟩

namespace Course

variable {s : Settings} {dryRun : Bool} {calls : List Call} {r : Except CheckError Outcome}

theorem isPrefix (h : Course s dryRun calls r) {key : Bytes} (hkey : s.apiKey? = some key) :
    calls.map Prod.fst <+: (Plan.ofSettings s key).steps.map Prod.snd := by
  cases h with
  | skipped | announced => exact List.nil_prefix
  | @carriedOut key' _ _ hkey' hplan =>
    obtain rfl : key' = key := Option.some.inj (hkey'.symm.trans hkey)
    cases hplan <;> simp [Plan.steps]

theorem carriesOut (h : Course s false calls r) {key : Bytes} (hkey : s.apiKey? = some key) :
    PlanCourse (.ofSettings s key) calls r := by
  cases h with
  | skipped hnone => simp [hkey] at hnone
  | @carriedOut key' _ _ hkey' hplan =>
    obtain rfl : key' = key := Option.some.inj (hkey'.symm.trans hkey)
    exact hplan

theorem nodup (h : Course s dryRun calls r) : (calls.map Prod.fst).Nodup := by
  cases hkey : s.apiKey? with
  | none =>
    cases h with
    | skipped => exact List.nodup_nil
    | announced hkey' | carriedOut hkey' => simp [hkey] at hkey'
  | some key => exact (h.isPrefix hkey).sublist.nodup (nodup_steps s key)

theorem eq_nil_iff (h : Course s dryRun calls r) :
    calls = [] ↔ s.apiKey? = none ∨ dryRun = true := by
  cases h with
  | skipped hkey => simp [hkey]
  | announced => simp
  | carriedOut hkey hplan => cases hplan <;> simp [hkey]

theorem eq_missingCredential (h : Course s dryRun calls r) (hkey : s.apiKey? = none) :
    r = .error (.missingCredential s.case.credentialVariable) := by
  cases h with
  | skipped => rfl
  | announced hkey' | carriedOut hkey' => simp [hkey] at hkey'

theorem eq_ok_of_dryRun (h : Course s true calls r) (hkey : s.apiKey? ≠ none) :
    r = .ok ⟨[], 0⟩ := by
  cases h with
  | skipped hkey' => exact absurd hkey' hkey
  | announced => rfl

theorem length_eq_one_iff (h : Course s dryRun calls r) :
    calls.length = 1 ↔ ∃ call e, calls[0]? = some call ∧ StrictEnd .ingest call.2 (.error e) := by
  have hpassed {status : ExitStatus} (hcode : status.code = 0) (e : CheckError) :
      ¬ StrictEnd .ingest (.ok status) (.error e) :=
    fun he ↦ by simpa using (StrictEnd.passed hcode).unique he
  cases h with
  | skipped | announced => simp
  | carriedOut hkey hplan =>
    cases hplan with
    | ingestInterrupted => simpa using ⟨_, StrictEnd.interrupted⟩
    | ingestNotRun he => simpa using ⟨_, StrictEnd.notRun he⟩
    | ingestFailed hcode => simpa using ⟨_, StrictEnd.failed hcode⟩
    | diffInterrupted hcode | copyInterrupted hcode | completed hcode => simp [hpassed hcode]

theorem eq_error_of_ingest (h : Course s dryRun calls r) {call : Call} {e : CheckError}
    (hcall : calls[0]? = some call) (he : StrictEnd .ingest call.2 (.error e)) : r = .error e := by
  cases h with
  | skipped | announced => simp at hcall
  | carriedOut hkey hplan =>
    cases hplan with
    | ingestInterrupted =>
      obtain rfl : _ = call := by simpa using hcall
      cases StrictEnd.interrupted.unique he
      rfl
    | ingestNotRun he' =>
      obtain rfl : _ = call := by simpa using hcall
      cases (StrictEnd.notRun he').unique he
      rfl
    | ingestFailed hcode =>
      obtain rfl : _ = call := by simpa using hcall
      cases (StrictEnd.failed hcode).unique he
      rfl
    | diffInterrupted hcode | copyInterrupted hcode | completed hcode =>
      obtain rfl : _ = call := by simpa using hcall
      cases (StrictEnd.passed hcode).unique he

theorem length_eq_two_iff (h : Course s dryRun calls r) :
    calls.length = 2 ↔ ∃ c, calls[1]? = some (c, .error .interrupted) := by
  cases h with
  | skipped | announced => simp
  | carriedOut hkey hplan => cases hplan <;> simp_all

theorem eq_interrupted_of_diff (h : Course s dryRun calls r) {c : Command}
    (hcall : calls[1]? = some (c, .error .interrupted)) : r = .error .interrupted := by
  cases h with
  | skipped | announced => simp at hcall
  | carriedOut hkey hplan => cases hplan <;> simp_all

theorem completes (h : Course s dryRun calls r) (hne : calls ≠ [])
    (hingest : ∀ call e, calls[0]? = some call → ¬ StrictEnd .ingest call.2 (.error e))
    (hdiff : ∀ c, calls[1]? ≠ some (c, .error .interrupted)) :
    ∃ ingest diff copy, calls = [ingest, diff, copy] ∧
      r = if copy.2 = .error .interrupted then .error .interrupted
        else .ok ⟨[(.ingest, 0), (.diff, recordedCode diff.2), (.copy, recordedCode copy.2)],
          recordedCode copy.2⟩ := by
  cases h with
  | skipped | announced => exact absurd rfl hne
  | carriedOut hkey hplan =>
    cases hplan with
    | ingestInterrupted => exact absurd .interrupted (hingest _ _ rfl)
    | ingestNotRun he => exact absurd (.notRun he) (hingest _ _ rfl)
    | ingestFailed hcode => exact absurd (.failed hcode) (hingest _ _ rfl)
    | diffInterrupted => exact absurd rfl (hdiff _)
    | copyInterrupted => exact ⟨_, _, _, rfl, rfl⟩
    | completed hcode hd hc => exact ⟨_, _, _, rfl, (if_neg hc).symm⟩

end Course

def exampleSettings : Settings where
  case := .octoai
  scriptDirectory := "/repo/e2e"
  repositoryRoot := "/repo"
  outputRoot := "/out put"
  outputDirectory := "/out put/structured-output/embed-octoai"
  workDirectory := "/out put/workdir/embed-octoai"
  maxProcesses := "4"
  pythonPath := "."
  ingestProgram := "unstructured-ingest"
  apiKey? := some (Bytes.ofString "it's a key")

/-- Strict and then relaxed: what the calls of a check have to do with each other and with what it
ends with. -/
structure StrictThenRelaxed (s : Settings) (dryRun : Bool) (calls : List Call)
    (r : Except CheckError Outcome) : Prop where
  isPrefix (key : Bytes) : s.apiKey? = some key →
    let plan := Plan.ofSettings s key
    calls.map Prod.fst <+: [plan.ingest, plan.diff, plan.copy]
  nodup : (calls.map Prod.fst).Nodup
  eq_nil_iff : calls = [] ↔ s.apiKey? = none ∨ dryRun = true
  skips : s.apiKey? = none → r = .error (.missingCredential s.case.credentialVariable)
  announces : s.apiKey? ≠ none → dryRun = true → r = .ok ⟨[], 0⟩
  ends_after_ingest_iff :
    calls.length = 1 ↔ ∃ call e, calls[0]? = some call ∧ StrictEnd .ingest call.2 (.error e)
  ingest_fails (call : Call) (e : CheckError) :
    calls[0]? = some call → StrictEnd .ingest call.2 (.error e) → r = .error e
  ends_after_diff_iff : calls.length = 2 ↔ ∃ c, calls[1]? = some (c, .error .interrupted)
  diff_interrupted (c : Command) :
    calls[1]? = some (c, .error .interrupted) → r = .error .interrupted
  completes : calls ≠ [] →
    (∀ call e, calls[0]? = some call → ¬ StrictEnd .ingest call.2 (.error e)) →
    (∀ c, calls[1]? ≠ some (c, .error .interrupted)) →
    ∃ ingest diff copy, calls = [ingest, diff, copy] ∧
      r = if copy.2 = .error .interrupted then .error .interrupted
        else .ok ⟨[(.ingest, 0), (.diff, recordedCode diff.2), (.copy, recordedCode copy.2)],
          recordedCode copy.2⟩

/-- Whatever a runner answers, and whatever it makes its answers depend on, a check runs its plan
strictly and then relaxedly. -/
theorem run_strictThenRelaxed (s : Settings) (dryRun : Bool) (w : Responder Request Request.Reply) :
    StrictThenRelaxed s dryRun (calls ((run s dryRun).play w []).2)
      ((run s dryRun).play w []).1 := by
  have h := play_course s dryRun w
  exact {
    isPrefix := fun key hkey ↦ h.isPrefix hkey
    nodup := h.nodup
    eq_nil_iff := h.eq_nil_iff
    skips := h.eq_missingCredential
    announces := fun hkey hdry ↦ by subst hdry; exact h.eq_ok_of_dryRun hkey
    ends_after_ingest_iff := h.length_eq_one_iff
    ingest_fails := fun call e hcall he ↦ h.eq_error_of_ingest hcall he
    ends_after_diff_iff := h.length_eq_two_iff
    diff_interrupted := fun c hcall ↦ h.eq_interrupted_of_diff hcall
    completes := h.completes }

end IngestCheck.Check
