import IngestCheck.Proofs.Check.Course
import IngestCheck.Proofs.Script.Scope
import Mathlib.Data.List.Forall2

namespace IngestCheck.Check

def Request.Spares : Request → Prop
  | .log _ | .print _ _ | .run _ => True
  | .present _ | .remove _ => False

/-- What passes while one directory is tidied up. A refusal is noted, and that is the end of it. -/
inductive Tidied (dir : Path) : Transcript → Prop
  | absent (e : Event) : Tidied dir [⟨.present dir, false⟩, ⟨.log e, ()⟩]
  | removed (e : Event) : Tidied dir [⟨.present dir, true⟩, ⟨.log e, ()⟩, ⟨.remove dir, .ok ()⟩]
  | refused (e : Event) (error : HostError) (noted : Event) :
    Tidied dir
      [⟨.present dir, true⟩, ⟨.log e, ()⟩, ⟨.remove dir, .error error⟩, ⟨.log noted, ()⟩]

def lookedFor? : Exchange Request Request.Reply → Option Path
  | ⟨.present path, _⟩ => some path
  | _ => none

theorem lookedFor?_eq_none {e : Exchange Request Request.Reply} (h : e.1.Spares) :
    lookedFor? e = none := by
  obtain ⟨q, r⟩ := e
  cases q with
  | present | remove => exact h.elim
  | log | print | run => rfl

theorem Tidied.calls_eq {dir : Path} {t : Transcript} (h : Tidied dir t) : calls t = [] := by
  cases h <;> rfl

theorem Tidied.lookedFor_eq {dir : Path} {t : Transcript} (h : Tidied dir t) :
    t.filterMap lookedFor? = [dir] := by
  cases h <;> rfl

theorem Tidied.eq_of_remove {dir path : Path} {t : Transcript} (h : Tidied dir t)
    {r : Request.Reply (.remove path)} (hmem : ⟨.remove path, r⟩ ∈ t) : path = dir := by
  cases h with
  | absent => simp at hmem
  | removed e =>
    have hgone : path = dir ∧ r = .ok () := by simpa using hmem
    exact hgone.1
  | refused e error noted =>
    have hkept : path = dir ∧ r = .error error := by simpa using hmem
    exact hkept.1

section

variable {dirs : List Path} {ts : List Transcript}

theorem calls_flatten_eq_nil (h : List.Forall₂ Tidied dirs ts) : calls ts.flatten = [] := by
  induction h with
  | nil => rfl
  | cons ht _ ih => rw [List.flatten_cons, calls, List.filterMap_append, ← calls, ← calls,
      ht.calls_eq, ih, List.append_nil]

theorem lookedFor_flatten (h : List.Forall₂ Tidied dirs ts) :
    ts.flatten.filterMap lookedFor? = dirs := by
  induction h with
  | nil => rfl
  | cons ht _ ih => rw [List.flatten_cons, List.filterMap_append, ht.lookedFor_eq, ih,
      List.singleton_append]

theorem mem_of_remove_mem_flatten (h : List.Forall₂ Tidied dirs ts) {path : Path}
    {r : Request.Reply (.remove path)} (hmem : ⟨.remove path, r⟩ ∈ ts.flatten) : path ∈ dirs := by
  induction h with
  | nil => exact absurd hmem List.not_mem_nil
  | cons ht _ ih =>
    rw [List.flatten_cons, List.mem_append] at hmem
    rcases hmem with hmem | hmem
    · rw [ht.eq_of_remove hmem]
      exact List.mem_cons_self
    · exact List.mem_cons_of_mem _ (ih hmem)

end

theorem tidyNoting_ensures (dir : Path) : (tidyNoting dir).Ensures fun _ t ↦ Tidied dir t := by
  intro there
  cases there with
  | false => exact fun _ ↦ .absent _
  | true =>
    intro _ gone
    cases gone with
    | ok _ => exact .removed _
    | error error => exact fun _ ↦ .refused _ error _

theorem tidyAll_ensures (dirs : List Path) :
    (tidyAll dirs).Ensures fun _ t ↦ ∃ ts, t = ts.flatten ∧ List.Forall₂ Tidied dirs ts := by
  induction dirs with
  | nil => exact ⟨[], rfl, .nil⟩
  | cons dir rest ih =>
    refine Script.Ensures.bind ((tidyNoting_ensures dir).mono fun _ t ht ↦ ?_)
    refine ih.mono ?_
    rintro _ _ ⟨ts, rfl, hts⟩
    exact ⟨t :: ts, rfl, .cons ht hts⟩

section

variable {α : Type} {body : Routine α}

def noted (dirs : List Path) (body : Routine α) : Routine α :=
  (log .debug .cleanup s!"Registered cleanup for {Quoted.list (dirs.map Quoted.bytes)}").bind
    fun _ ↦ body

theorem guarded_eq (dirs : List Path) (body : Routine α) : guarded dirs body =
    (noted dirs body).bind fun a ↦ (tidyAll dirs).bind fun _ ↦ .done a := rfl

theorem noted_asks (h : body.Asks Request.Spares) (dirs : List Path) :
    (noted dirs body).Asks Request.Spares :=
  .bind (Script.request_asks trivial) fun _ ↦ h

/-- A guard tidies up all of its directories behind a body that leaves them alone. -/
theorem guarded_ensures (h : body.Asks Request.Spares) (dirs : List Path) :
    (guarded dirs body).Ensures fun _ t ↦ ∃ course ts, t = course ++ ts.flatten ∧
      (∀ e ∈ course, e.1.Spares) ∧ List.Forall₂ Tidied dirs ts := by
  rw [guarded_eq]
  refine Script.Ensures.bind ((noted_asks h dirs).ensures.mono fun a course hcourse ↦ ?_)
  refine Script.Ensures.bind ((tidyAll_ensures dirs).mono ?_)
  rintro _ _ ⟨ts, rfl, hts⟩
  exact ⟨course, ts, by rw [List.append_nil], hcourse, hts⟩

theorem guarded_play (dirs : List Path) (body : Routine α) (w : Responder Request Request.Reply) :
    ((guarded dirs body).play w []).1 = ((noted dirs body).play w []).1 := by
  rw [guarded_eq, Script.play_bind, Script.play_bind]
  rfl

end

theorem strict_asks (stage : Stage) (c : Command) : (strict stage c).Asks Request.Spares := by
  refine .bind (Script.request_asks trivial) fun _ ↦ .bind (Script.request_asks trivial) fun a ↦ ?_
  split
  · split <;> trivial
  · trivial
  · trivial

theorem relaxed_asks (stage : Stage) (c : Command) : (relaxed stage c).Asks Request.Spares := by
  refine .bind (Script.request_asks trivial) fun _ ↦ .bind (Script.request_asks trivial) fun a ↦ ?_
  split
  · trivial
  · exact .bind (Script.request_asks trivial) fun _ ↦ trivial
  · trivial
  · exact .bind (Script.request_asks trivial) fun _ ↦ trivial

theorem steps_asks (folder : String) (plan : Plan) : (steps folder plan).Asks Request.Spares := by
  refine .bind (strict_asks .ingest plan.ingest) fun ingest ↦ ?_
  cases ingest with
  | error e => trivial
  | ok _ =>
    refine .bind (relaxed_asks .diff plan.diff) fun diff ↦ ?_
    cases diff with
    | error e => trivial
    | ok diff =>
      refine .bind (relaxed_asks .copy plan.copy) fun copy ↦ ?_
      cases copy with
      | error e => trivial
      | ok copy =>
        dsimp only
        split <;> exact .bind (Script.request_asks trivial) fun _ ↦ trivial

theorem body_asks (s : Settings) (dryRun : Bool) : (body s dryRun).Asks Request.Spares := by
  unfold body
  split
  · trivial
  · dsimp only
    split
    · exact .bind (Script.request_asks trivial) fun _ ↦ trivial
    · exact steps_asks _ _

section

variable (s : Settings) (dryRun : Bool) (w : Responder Request Request.Reply)

theorem run_parts : ∃ course ts, ((run s dryRun).play w []).2 = course ++ ts.flatten ∧
    (∀ e ∈ course, e.1.Spares) ∧ List.Forall₂ Tidied s.scratch ts := by
  obtain ⟨t, ht, course, ts, rfl, hcourse, hts⟩ :=
    (guarded_ensures (body_asks s dryRun) s.scratch).play w []
  exact ⟨course, ts, ht, hcourse, hts⟩

theorem run_lookedFor : ((run s dryRun).play w []).2.filterMap lookedFor? = s.scratch := by
  obtain ⟨course, ts, ht, hcourse, hts⟩ := run_parts s dryRun w
  have hnone : course.filterMap lookedFor? = [] :=
    List.filterMap_eq_nil_iff.mpr fun e he ↦ lookedFor?_eq_none (hcourse e he)
  rw [ht, List.filterMap_append, hnone, List.nil_append, lookedFor_flatten hts]

theorem run_removes {path : Path} {r : Request.Reply (.remove path)}
    (hmem : ⟨.remove path, r⟩ ∈ ((run s dryRun).play w []).2) : path ∈ s.scratch := by
  obtain ⟨course, ts, ht, hcourse, hts⟩ := run_parts s dryRun w
  rw [ht, List.mem_append] at hmem
  rcases hmem with hmem | hmem
  · exact (hcourse _ hmem).elim
  · exact mem_of_remove_mem_flatten hts hmem

theorem run_play_eq {w' : Responder Request Request.Reply} (hw : w.AgreeOn Request.Spares w') :
    ((run s dryRun).play w []).1 = ((run s dryRun).play w' []).1 := by
  have hbody := noted_asks (body_asks s dryRun) s.scratch
  rw [run, guarded_play, guarded_play, hbody.play_eq hw (by simp)]

/-- How a check ends against some responder: both scratch directories are tidied up, the second
whatever became of the first, when all commands are done. What it ends with is settled by then. -/
structure TidiesUp : Prop where
  parts : ∃ course first second, ((run s dryRun).play w []).2 = course ++ (first ++ second) ∧
    (∀ e ∈ course, e.1.Spares) ∧ List.Forall₂ Tidied s.scratch [first, second] ∧
    calls (first ++ second) = []
  once : ((run s dryRun).play w []).2.filterMap lookedFor? = s.scratch
  neutral (w' : Responder Request Request.Reply) : w.AgreeOn Request.Spares w' →
    ((run s dryRun).play w []).1 = ((run s dryRun).play w' []).1

/-- Whoever answers, a check ends by tidying up, and no refusal to remove anything changes what it
ends with. -/
theorem run_tidiesUp : TidiesUp s dryRun w where
  parts := by
    obtain ⟨course, ts, ht, hcourse, hts⟩ := run_parts s dryRun w
    obtain ⟨first, second, rfl⟩ := List.length_eq_two.mp hts.length_eq.symm
    have hflatten : [first, second].flatten = first ++ second := by simp
    have hcalls := calls_flatten_eq_nil hts
    rw [hflatten] at ht hcalls
    exact ⟨course, first, second, ht, hcourse, hts, hcalls⟩
  once := run_lookedFor s dryRun w
  neutral _ hw := run_play_eq s dryRun w hw

end

end IngestCheck.Check
