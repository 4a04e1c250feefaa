import IngestCheck.Proofs.Check.Tidying
import IngestCheck.Proofs.CommandLine.ExitCode

namespace IngestCheck

theorem isPrefix_of_map_isPrefix {α β : Type} {f : α → β} {l k : List α} (hk : (k.map f).Nodup)
    (hl : l ⊆ k) (h : l.map f <+: k.map f) : l <+: k := by
  induction l generalizing k with
  | nil => exact List.nil_prefix
  | cons a l ih =>
    cases k with
    | nil => exact absurd (hl List.mem_cons_self) List.not_mem_nil
    | cons b k =>
      rw [List.map_cons, List.map_cons, List.cons_prefix_cons] at h
      obtain ⟨hab, h⟩ := h
      obtain ⟨hfirst, hrest⟩ := List.nodup_cons.mp hk
      have heq : a = b :=
        List.inj_on_of_nodup_map hk (hl List.mem_cons_self) List.mem_cons_self hab
      have hsubset : l ⊆ k := by
        intro c hc
        rcases List.mem_cons.mp (hl (List.mem_cons_of_mem a hc)) with rfl | hmem
        · exact absurd (h.subset (List.mem_map_of_mem hc)) hfirst
        · exact hmem
      exact List.cons_prefix_cons.mpr ⟨heq, ih hrest hsubset h⟩

namespace Check

def entry (step : Stage × Command) : String :=
  "# " ++ step.1.name ++ "\n" ++ step.2.displayLine ++ "\n"

def printed? (stream : Stream) : Exchange Request Request.Reply → Option String
  | ⟨.print s text, _⟩ => if s = stream then some text else none
  | _ => none

def written (stream : Stream) (t : Transcript) : String :=
  String.join (t.filterMap (printed? stream))

def running? (e : Event) : Option Stage :=
  [Stage.ingest, .diff, .copy].find? fun stage ↦
    e = ⟨.info, .pipeline, s!"Running {stage.name} step"⟩

def issuedFrom : Option Stage → Transcript → List (Option Stage × Command)
  | _, [] => []
  | stage?, ⟨.log e, _⟩ :: t => issuedFrom ((running? e).or stage?) t
  | stage?, ⟨.run c, _⟩ :: t => (stage?, c) :: issuedFrom stage? t
  | stage?, ⟨.print _ _, _⟩ :: t => issuedFrom stage? t
  | stage?, ⟨.present _, _⟩ :: t => issuedFrom stage? t
  | stage?, ⟨.remove _, _⟩ :: t => issuedFrom stage? t

def issued (t : Transcript) : List (Option Stage × Command) := issuedFrom none t

def logged (step : Stage × Command) : Option Stage × Command := (some step.1, step.2)

@[simp] theorem running?_running (stage : Stage) :
    running? ⟨.info, .pipeline, s!"Running {stage.name} step"⟩ = some stage := by
  cases stage <;> decide

theorem map_snd_issuedFrom (stage? : Option Stage) (t : Transcript) :
    (issuedFrom stage? t).map Prod.snd = (calls t).map Prod.fst := by
  fun_induction issuedFrom stage? t with
  | case1 => rfl
  | case2 stage? e r t ih => exact ih
  | case3 stage? c a t ih => simpa [calls, call?] using ih
  | case4 stage? stream text r t ih => exact ih
  | case5 stage? path r t ih => exact ih
  | case6 stage? path r t ih => exact ih

theorem issuedFrom_append (stage? : Option Stage) (t t' : Transcript) :
    ∃ later?, issuedFrom stage? (t ++ t') = issuedFrom stage? t ++ issuedFrom later? t' := by
  fun_induction issuedFrom stage? t with
  | case1 stage? => exact ⟨stage?, rfl⟩
  | case2 stage? e r t ih => exact ih
  | case3 stage? c a t ih =>
    obtain ⟨later?, heq⟩ := ih
    exact ⟨later?, congrArg ((stage?, c) :: ·) heq⟩
  | case4 stage? stream text r t ih => exact ih
  | case5 stage? path r t ih => exact ih
  | case6 stage? path r t ih => exact ih

/-- Whatever the log said before, every command is run in one of some steps. -/
def Staged (steps : List (Stage × Command)) (t : Transcript) : Prop :=
  ∀ stage?, issuedFrom stage? t ⊆ steps.map logged

section

variable {steps : List (Stage × Command)}

theorem Staged.append {t t' : Transcript} (h : Staged steps t) (h' : Staged steps t') :
    Staged steps (t ++ t') := by
  intro stage?
  obtain ⟨later?, heq⟩ := issuedFrom_append stage? t t'
  rw [heq]
  exact List.append_subset_of_subset_of_subset (h stage?) (h' later?)

theorem staged_of_calls_eq_nil {t : Transcript} (h : calls t = []) : Staged steps t := by
  intro stage?
  have hmap := map_snd_issuedFrom stage? t
  rw [h, List.map_nil, List.map_eq_nil_iff] at hmap
  rw [hmap]
  exact List.nil_subset _

theorem bind_staged {α β : Type} {p : Routine α} {f : α → Routine β}
    (hp : p.Ensures fun _ t ↦ Staged steps t) (hf : ∀ a, (f a).Ensures fun _ t ↦ Staged steps t) :
    (p.bind f).Ensures fun _ t ↦ Staged steps t := by
  refine Script.Ensures.bind (hp.mono fun a t ht ↦ ?_)
  exact (hf a).mono fun _ t' ht' ↦ ht.append ht'

theorem done_staged {α : Type} (a : α) :
    (Script.done a : Routine α).Ensures fun _ t ↦ Staged steps t := staged_of_calls_eq_nil rfl

theorem log_staged (level : Level) (source : Source) (message : String) :
    (log level source message).Ensures fun _ t ↦ Staged steps t :=
  fun _ ↦ staged_of_calls_eq_nil rfl

theorem begun_staged {α : Type} {stage : Stage} {c : Command} {f : Answer → Routine α}
    (h : (stage, c) ∈ steps) (hf : ∀ a, (f a).Ensures fun _ t ↦ Staged steps t) :
    ((log .info .pipeline s!"Running {stage.name} step").bind fun _ ↦
      (runCommand c).bind f).Ensures fun _ t ↦ Staged steps t := by
  intro _ a
  refine (hf a).mono fun _ t ht ↦ ?_
  intro stage?
  have hlogged : (some stage, c) ∈ steps.map logged := List.mem_map_of_mem h
  simpa [issuedFrom, hlogged] using ht (some stage)

theorem strict_staged {stage : Stage} {c : Command} (h : (stage, c) ∈ steps) :
    (strict stage c).Ensures fun _ t ↦ Staged steps t := by
  refine begun_staged h fun a ↦ ?_
  split
  · split <;> exact done_staged _
  · exact done_staged _
  · exact done_staged _

theorem relaxed_staged {stage : Stage} {c : Command} (h : (stage, c) ∈ steps) :
    (relaxed stage c).Ensures fun _ t ↦ Staged steps t := by
  refine begun_staged h fun a ↦ ?_
  split
  · exact done_staged _
  · exact bind_staged (log_staged _ _ _) fun _ ↦ done_staged _
  · exact done_staged _
  · exact bind_staged (log_staged _ _ _) fun _ ↦ done_staged _

end

theorem steps_staged (folder : String) (plan : Plan) :
    (Check.steps folder plan).Ensures fun _ t ↦ Staged plan.steps t := by
  refine bind_staged (strict_staged (by simp [Plan.steps])) fun ingest ↦ ?_
  cases ingest with
  | error e => exact done_staged _
  | ok _ =>
    refine bind_staged (relaxed_staged (by simp [Plan.steps])) fun diff ↦ ?_
    cases diff with
    | error e => exact done_staged _
    | ok diff =>
      refine bind_staged (relaxed_staged (by simp [Plan.steps])) fun copy ↦ ?_
      cases copy with
      | error e => exact done_staged _
      | ok copy =>
        dsimp only
        split <;> exact bind_staged (log_staged _ _ _) fun _ ↦ done_staged _

theorem guarded_staged {α : Type} {steps : List (Stage × Command)} {body : Routine α}
    (h : body.Ensures fun _ t ↦ Staged steps t) (dirs : List Path) :
    (guarded dirs body).Ensures fun _ t ↦ Staged steps t := by
  rw [guarded_eq, noted]
  refine bind_staged ?_ fun a ↦ ?_
  · exact bind_staged (log_staged _ _ _) fun _ ↦ h
  · refine bind_staged ?_ fun _ ↦ done_staged _
    refine (tidyAll_ensures dirs).mono ?_
    rintro _ _ ⟨ts, rfl, hts⟩
    exact staged_of_calls_eq_nil (calls_flatten_eq_nil hts)

section

variable {s : Settings} {key : Bytes}

theorem body_eq (hkey : s.apiKey? = some key) (dryRun : Bool) : body s dryRun =
    if dryRun then (print .output (Plan.ofSettings s key).announce).bind fun _ ↦ .done (.ok {})
    else Check.steps s.case.folderName (Plan.ofSettings s key) := by
  unfold body Settings.apiKey
  rw [hkey]
  rfl

theorem run_staged (hkey : s.apiKey? = some key) (w : Responder Request Request.Reply) :
    Staged (Plan.ofSettings s key).steps ((run s false).play w []).2 := by
  have hbody : (body s false).Ensures fun _ t ↦ Staged (Plan.ofSettings s key).steps t := by
    rw [body_eq hkey]
    exact steps_staged _ _
  obtain ⟨t, ht, hstaged⟩ := (guarded_staged hbody s.scratch).play w []
  rw [run, ht]
  exact hstaged

theorem issued_isPrefix (hkey : s.apiKey? = some key) (w : Responder Request Request.Reply) :
    issued ((run s false).play w []).2 <+: (Plan.ofSettings s key).steps.map logged := by
  have hmap (steps : List (Stage × Command)) :
      (steps.map logged).map Prod.snd = steps.map Prod.snd := by
    rw [List.map_map]
    rfl
  -- no command occurs twice in a plan, so the order of the commands is that of the steps
  refine isPrefix_of_map_isPrefix (f := Prod.snd) ?_ (run_staged hkey w none) ?_
  · rw [hmap]
    exact nodup_steps s key
  · rw [hmap, issued, map_snd_issuedFrom]
    exact (play_course s false w).isPrefix hkey

theorem PlanCourse.length_eq_three_iff {calls : List Call} {r : Except CheckError Outcome}
    (h : PlanCourse (.ofSettings s key) calls r) : calls.length = 3 ↔
      ∃ status : ExitStatus, ((Plan.ofSettings s key).ingest, .ok status) ∈ calls ∧
        status.code = 0 ∧ ((Plan.ofSettings s key).diff, .error .interrupted) ∉ calls := by
  obtain ⟨hdiff, hcopy, hlast⟩ := steps_ne s key
  cases h with
  | ingestInterrupted => simp
  | ingestNotRun he => simp
  | ingestFailed hcode => simpa using hcode
  | diffInterrupted hcode => simp
  | copyInterrupted hcode hd => simp_all [eq_comm]
  | completed hcode hd hc => simp_all [eq_comm]

theorem filterMap_printed_flatten (stream : Stream) {dirs : List Path} {ts : List Transcript}
    (h : List.Forall₂ Tidied dirs ts) : ts.flatten.filterMap (printed? stream) = [] := by
  induction h with
  | nil => rfl
  | @cons dir t dirs ts ht _ ih =>
    have hnone : t.filterMap (printed? stream) = [] := by
      cases ht <;> rfl
    rw [List.flatten_cons, List.filterMap_append, hnone, ih, List.append_nil]

theorem dryRun_written (hkey : s.apiKey? = some key) (w : Responder Request Request.Reply) :
    written .output ((run s true).play w []).2 =
      String.join ((Plan.ofSettings s key).steps.map entry) := by
  have hrun : run s true = (noted s.scratch (print .output (Plan.ofSettings s key).announce)).bind
      fun _ ↦ (tidyAll s.scratch).bind fun _ ↦ .done (.ok {}) := by
    rw [run, guarded_eq, noted, body_eq hkey]
    rfl
  have hprints : (run s true).Ensures fun _ t ↦ t.filterMap (printed? .output) =
      [(Plan.ofSettings s key).announce] := by
    rw [hrun]
    refine Script.Ensures.bind fun _ _ ↦ ?_
    -- what is tidied up afterwards is logged and not printed
    refine Script.Ensures.bind ((tidyAll_ensures s.scratch).mono ?_)
    rintro _ _ ⟨ts, rfl, hts⟩
    rw [Script.Ensures, List.append_nil]
    exact congrArg (_ :: ·) (filterMap_printed_flatten .output hts)
  obtain ⟨t, ht, hprinted⟩ := hprints.play w []
  rw [ht, List.nil_append, written, hprinted, String.join_cons, String.join_nil,
    String.append_empty]
  rfl

/-- How a dry run and a check of the same settings go together. -/
structure FollowsAnnouncement (plan : Plan) (announced carriedOut : Transcript) : Prop where
  idle : calls announced = []
  announced_eq : written .output announced = String.join (plan.steps.map entry)
  begun : ∃ done left, plan.steps = done ++ left ∧ issued carriedOut = done.map logged ∧
    written .output announced = String.join (done.map entry) ++ String.join (left.map entry)
  pursued : Pursued plan (calls carriedOut)
  finished_iff : issued carriedOut = plan.steps.map logged ↔
    ∃ status : ExitStatus, (plan.ingest, .ok status) ∈ calls carriedOut ∧ status.code = 0 ∧
      (plan.diff, .error .interrupted) ∉ calls carriedOut

/-- Whoever answers, a check runs what a dry run of the same settings announces, in the same order,
and it stops early only for the ingest or for an interruption. -/
theorem run_followsAnnouncement (hkey : s.apiKey? = some key)
    (w w' : Responder Request Request.Reply) : FollowsAnnouncement (.ofSettings s key)
      ((run s true).play w []).2 ((run s false).play w' []).2 := by
  have hannounced := dryRun_written hkey w
  have hprefix := issued_isPrefix hkey w'
  have hplan := (play_course s false w').carriesOut hkey
  exact {
    idle := (play_course s true w).eq_nil_iff.mpr (.inr rfl)
    announced_eq := hannounced
    begun := by
      obtain ⟨done, ⟨left, hsteps⟩, hissued⟩ := List.prefix_map_iff.mp hprefix
      refine ⟨done, left, hsteps.symm, hissued, ?_⟩
      rw [hannounced, ← hsteps, List.map_append, String.join_append]
    pursued := hplan.pursued
    finished_iff := by
      have hlength : (issued ((run s false).play w' []).2).length =
          (calls ((run s false).play w' []).2).length := by
        rw [← List.length_map Prod.snd, issued, map_snd_issuedFrom, List.length_map]
      rw [← hplan.length_eq_three_iff, ← hlength]
      exact ⟨fun h ↦ by rw [h]; rfl, fun h ↦ hprefix.eq_of_length h⟩ }

end

def interruptedAt (program : Bytes) : Responder Request Request.Reply
  | _, .run c => if c.program = program then .error .interrupted else .ok .success
  | _, .log _ => ()
  | _, .print _ _ => ()
  | _, .present _ => true
  | _, .remove _ => .ok ()

/-- The diff is interrupted, and the copy that was announced is not run. -/
theorem run_followsAnnouncement_interrupted :
    let plan := Plan.ofSettings exampleSettings "it's a key"
    let w := interruptedAt plan.diff.program
    exampleSettings.apiKey? = some (Bytes.ofString "it's a key") ∧
      FollowsAnnouncement plan ((run exampleSettings true).play w []).2
        ((run exampleSettings false).play w []).2 ∧
      issued ((run exampleSettings false).play w []).2 =
        [(some .ingest, plan.ingest), (some .diff, plan.diff)] := by
  intro plan w
  have hkey : exampleSettings.apiKey? = some (Bytes.ofString "it's a key") := rfl
  have hfollows := run_followsAnnouncement hkey w w
  refine ⟨hkey, hfollows, ?_⟩
  rfl

end Check

end IngestCheck
