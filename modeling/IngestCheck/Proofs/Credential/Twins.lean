import IngestCheck.Proofs.Credential.Displays
import IngestCheck.Proofs.Interruption.System
import IngestCheck.Proofs.Script.Likeness

namespace IngestCheck

inductive Plan.Twins (plan plan' : Plan) : Command → Command → Prop
  | ingest : Twins plan plan' plan.ingest plan'.ingest
  | diff : Twins plan plan' plan.diff plan'.diff
  | copy : Twins plan plan' plan.copy plan'.copy

namespace Check

variable {twins : Command → Command → Prop}

inductive Asked (twins : Command → Command → Prop) : Request → Request → Prop
  | same {q : Request} (hq : ∀ c, q ≠ .run c) : Asked twins q q
  | run {c c' : Command} (h : twins c c') : Asked twins (.run c) (.run c')

def Replied : (q q' : Request) → q.Reply → q'.Reply → Prop
  | .run _, .run _, r, r' => r = r'
  | .present _, .present _, r, r' => r = r'
  | .remove _, .remove _, r, r' => r = r'
  | _, _, _, _ => True

def likeness (twins : Command → Command → Prop) : Likeness Request Request.Reply where
  asked := Asked twins
  replied := Replied

theorem request_alike {q : Request} (hq : ∀ c, q ≠ .run c) :
    (Script.request q).Alike (likeness twins) Eq (Script.request q) := by
  refine .ask (.same hq) fun r r' hr ↦ .done ?_
  cases q with
  | run c => exact absurd rfl (hq c)
  | log | print => rfl
  | present | remove => exact hr

theorem log_alike (level : Level) (source : Source) (message : String) :
    (log level source message).Alike (likeness twins) Eq (log level source message) :=
  request_alike (q := .log ⟨level, source, message⟩) nofun

theorem runCommand_alike {c c' : Command} (h : twins c c') :
    (runCommand c).Alike (likeness twins) Eq (runCommand c') :=
  .ask (.run h) fun _ _ hr ↦ .done hr

theorem strict_alike (stage : Stage) {c c' : Command} (h : twins c c') :
    (strict stage c).Alike (likeness twins) Eq (strict stage c') := by
  refine (log_alike _ _ _).bind_same fun _ ↦ ?_
  refine (runCommand_alike h).bind_same fun a ↦ ?_
  split
  · split <;> exact .done rfl
  · exact .done rfl
  · exact .done rfl

theorem relaxed_alike (stage : Stage) {c c' : Command} (h : twins c c') :
    (relaxed stage c).Alike (likeness twins) Eq (relaxed stage c') := by
  refine (log_alike _ _ _).bind_same fun _ ↦ ?_
  refine (runCommand_alike h).bind_same fun a ↦ ?_
  split
  · exact .done rfl
  · exact (log_alike _ _ _).bind_same fun _ ↦ .done rfl
  · exact .done rfl
  · exact (log_alike _ _ _).bind_same fun _ ↦ .done rfl

theorem steps_alike (folder : String) (plan plan' : Plan) :
    (steps folder plan).Alike (likeness (plan.Twins plan')) Eq (steps folder plan') := by
  refine (strict_alike .ingest .ingest).bind_same fun ingest ↦ ?_
  cases ingest with
  | error e => exact .done rfl
  | ok _ =>
    refine (relaxed_alike .diff .diff).bind_same fun diff ↦ ?_
    cases diff with
    | error e => exact .done rfl
    | ok diff =>
      refine (relaxed_alike .copy .copy).bind_same fun copy ↦ ?_
      cases copy with
      | error e => exact .done rfl
      | ok copy =>
        dsimp only
        split
        · exact (log_alike _ _ _).bind_same fun _ ↦ .done rfl
        · exact (log_alike _ _ _).bind_same fun _ ↦ .done rfl

theorem tidyNoting_alike (dir : Path) :
    (tidyNoting dir).Alike (likeness twins) Eq (tidyNoting dir) := by
  have hpresent : (present dir).Alike (likeness twins) Eq (present dir) :=
    request_alike (q := .present dir) nofun
  have hremove : (remove dir).Alike (likeness twins) Eq (remove dir) :=
    request_alike (q := .remove dir) nofun
  have htidy : (tidy dir).Alike (likeness twins) Eq (tidy dir) := by
    refine hpresent.bind_same fun there ↦ ?_
    split
    · refine (log_alike _ _ _).bind_same fun _ ↦ hremove.bind_same fun r ↦ ?_
      split <;> exact .done rfl
    · exact (log_alike _ _ _).bind_same fun _ ↦ .done rfl
  refine htidy.bind_same fun r ↦ ?_
  cases r with
  | ok there => exact .done rfl
  | error e => exact log_alike _ _ _

theorem tidyAll_alike (dirs : List Path) :
    (tidyAll dirs).Alike (likeness twins) Eq (tidyAll dirs) := by
  induction dirs with
  | nil => exact .done rfl
  | cons dir rest ih => exact (tidyNoting_alike dir).bind_same fun _ ↦ ih

theorem guarded_alike {α : Type} {dirs : List Path} {body body' : Routine α}
    (h : body.Alike (likeness twins) Eq body') :
    (guarded dirs body).Alike (likeness twins) Eq (guarded dirs body') := by
  refine (log_alike _ _ _).bind_same fun _ ↦ h.bind_same fun a ↦ ?_
  exact (tidyAll_alike dirs).bind_same fun _ ↦ .done rfl

/-- Checks of settings that differ in the key are alike if their plans are announced alike. -/
theorem run_alike (s : Settings) (key key' : Bytes) (dryRun : Bool)
    (h : (Plan.ofSettings (s.withKey key) key).announce =
      (Plan.ofSettings (s.withKey key') key').announce) :
    (run (s.withKey key) dryRun).Alike
      (likeness ((Plan.ofSettings (s.withKey key) key).Twins (.ofSettings (s.withKey key') key')))
      Eq (run (s.withKey key') dryRun) := by
  refine guarded_alike ?_
  cases dryRun with
  | false => exact steps_alike s.case.folderName _ _
  | true =>
    have hbody (key : Bytes) : body (s.withKey key) true =
        (print .output (Plan.ofSettings (s.withKey key) key).announce).bind
          fun _ ↦ .done (.ok {}) := rfl
    rw [hbody, hbody, h]
    refine Script.Alike.bind_same ?_ fun _ ↦ .done rfl
    exact request_alike (q := .print .output _) nofun

end Check

namespace Children

inductive Awaited.SameButTime : Awaited → Awaited → Prop
  | ended (ending : Ending) (elapsed elapsed' : Nat) :
    SameButTime (.ended ending elapsed) (.ended ending elapsed')
  | failed (e : HostError) : SameButTime (.failed e) (.failed e)
  | stopped : SameButTime .stopped .stopped

/-- The same event, or what is logged at the end of one child after one time or another. -/
inductive SameButTime : Event → Event → Prop
  | same (e : Event) : SameButTime e e
  | concluded {c : Command} {status : ExitStatus} {elapsed elapsed' : Nat} {e e' : Event}
    (h : conclude c status elapsed = Script.request (Request.log e))
    (h' : conclude c status elapsed' = Script.request (Request.log e')) : SameButTime e e'

inductive Asked (c c' : Command) : Request → Request → Prop
  | log {e e' : Event} (h : SameButTime e e') : Asked c c' (.log e) (.log e')
  | stopping : Asked c c' .stopping .stopping
  | launch : Asked c c' (.launch c) (.launch c')
  | await : Asked c c' .await .await
  | kill : Asked c c' .kill .kill
  | reap : Asked c c' .reap .reap

def Replied : (q q' : Request) → q.Reply → q'.Reply → Prop
  | .stopping, .stopping, r, r' => r = r'
  | .launch _, .launch _, r, r' => r = r'
  | .await, .await, r, r' => r.SameButTime r'
  | .kill, .kill, r, r' => r = r'
  | .reap, .reap, r, r' => r = r'
  | _, _, _, _ => True

def likeness (c c' : Command) : Likeness Request Request.Reply where
  asked := Asked c c'
  replied := Replied

section

variable {c c' : Command}

theorem log_alike (level : Level) (message : String) :
    (log level message).Alike (likeness c c') Eq (log level message) :=
  .ask (.log (.same _)) fun _ _ _ ↦ .done rfl

theorem announce_alike (h : c.ShownAlike c') :
    (announce c).Alike (likeness c c') Eq (announce c') := by
  have hannounce : announce c = announce c' := by
    unfold announce
    rw [h.displayLine, h.bindings, h.directory]
  rw [hannounce]
  refine (log_alike _ _).bind_same fun _ ↦ ?_
  cases c'.directory with
  | none =>
    dsimp only
    split
    · exact (log_alike _ _).bind_same fun _ ↦ .done rfl
    · exact .done rfl
  | some dir =>
    dsimp only
    split
    · exact (log_alike _ _).bind_same fun _ ↦ log_alike _ _
    · exact log_alike _ _

theorem conclude_alike (h : c.ShownAlike c') (status : ExitStatus) (elapsed elapsed' : Nat) :
    (conclude c status elapsed).Alike (likeness c c') Eq (conclude c' status elapsed') := by
  have hlog (elapsed : Nat) :
      ∃ e, conclude c status elapsed = Script.request (Request.log e) := by
    cases status <;> exact ⟨_, rfl⟩
  have hconclude : conclude c' status elapsed' = conclude c status elapsed' := by
    unfold conclude
    rw [h.displayLine]
  obtain ⟨e, he⟩ := hlog elapsed
  obtain ⟨e', he'⟩ := hlog elapsed'
  rw [hconclude, he, he']
  exact .ask (.log (.concluded he he')) fun _ _ _ ↦ .done rfl

theorem launchError_eq (h : c.ShownAlike c') (e : HostError) :
    launchError c e = launchError c' e := by
  unfold launchError
  rw [h.displayLine, h.programName]

theorem strike_alike (c₀ : Command) : (strike c₀).Alike (likeness c c') Eq (strike c₀) := by
  have hkill : kill.Alike (likeness c c') Eq kill := .ask .kill fun _ _ hr ↦ .done hr
  refine hkill.bind_same fun killed ↦ ?_
  cases killed with
  | ok _ => exact .done rfl
  | error e => exact log_alike _ _

theorem collect_alike (c₀ : Command) : (collect c₀).Alike (likeness c c') Eq (collect c₀) := by
  have hreap : reap.Alike (likeness c c') Eq reap := .ask .reap fun _ _ hr ↦ .done hr
  refine hreap.bind_same fun reaped ↦ ?_
  cases reaped with
  | ok _ => exact .done rfl
  | error e => exact log_alike _ _

theorem stop_alike (h : c.ShownAlike c') : (stop c).Alike (likeness c c') Eq (stop c') := by
  have hstop : stop c = stop c' := by
    unfold stop strike collect
    rw [h.programName]
  rw [hstop]
  refine (log_alike _ _).bind_same fun _ ↦ ?_
  exact (strike_alike c').bind_same fun _ ↦ collect_alike c'

theorem run_alike (h : c.ShownAlike c') : (run c).Alike (likeness c c') Eq (run c') := by
  have hasked {message message' : String} (hmessage : message = message') (level : Level) :
      (likeness c c').asked (.log ⟨level, .children, message⟩)
        (.log ⟨level, .children, message'⟩) := by
    rw [hmessage]
    exact .log (.same _)
  have hstopping : stopping.Alike (likeness c c') Eq stopping :=
    .ask .stopping fun _ _ hr ↦ .done hr
  have hlaunch : (launch c).Alike (likeness c c') Eq (launch c') :=
    .ask .launch fun _ _ hr ↦ .done hr
  have hawait : await.Alike (likeness c c') Awaited.SameButTime await :=
    .ask .await fun _ _ hr ↦ .done hr
  refine hstopping.bind_same fun stop ↦ ?_
  cases stop with
  | true => exact .ask (hasked (by rw [h.programName]) .debug) fun _ _ _ ↦ .done rfl
  | false =>
    refine (announce_alike h).bind_same fun _ ↦ hlaunch.bind_same fun launched ↦ ?_
    cases launched with
    | error e =>
      refine .ask (hasked (by rw [h.programName]) .error) fun _ _ _ ↦ .done ?_
      rw [launchError_eq h]
    | ok _ =>
      refine hawait.bind fun awaited awaited' hawaited ↦ ?_
      cases hawaited with
      | ended ending elapsed elapsed' =>
        exact (conclude_alike h ending.status elapsed elapsed').bind_same fun _ ↦ .done rfl
      | failed e =>
        refine .done ?_
        rw [h.displayLine]
      | stopped => exact (stop_alike h).bind_same fun _ ↦ .done rfl

end

end Children

namespace Interruption

variable {twins : Command → Command → Prop}

inductive Asked (twins : Command → Command → Prop) : Request → Request → Prop
  | check {q : Check.Request} (hq : ∀ c, q ≠ .run c) : Asked twins (.check q) (.check q)
  | runner {c c' : Command} {q q' : Children.Request} (h : twins c c')
    (hq : Children.Asked c c' q q') : Asked twins (.runner c q) (.runner c' q')

def Replied : (q q' : Request) → q.Reply → q'.Reply → Prop
  | .check q, .check q', r, r' => Check.Replied q q' r r'
  | .runner _ q, .runner _ q', r, r' => Children.Replied q q' r r'
  | _, _, _, _ => True

def likeness (twins : Command → Command → Prop) : Likeness Request Request.Reply where
  asked := Asked twins
  replied := Replied

theorem attend_alike {c c' : Command} (htwins : twins c c') (h : c.ShownAlike c') :
    (attend c).Alike (likeness twins) Eq (attend c') := by
  have hanswer (q q' : Children.Request) (hq : Children.Asked c c' q q') :
      (Script.request (Request.runner c q)).Alike (likeness twins) (Children.Replied q q')
        (Script.request (Request.runner c' q')) :=
    Script.alike_request (l := likeness twins) (Asked.runner htwins hq)
  exact (Children.run_alike h).graft hanswer

theorem serve_alike (h : ∀ c c', twins c c' → c.ShownAlike c') (q q' : Check.Request)
    (hq : Check.Asked twins q q') :
    (serve q).Alike (likeness twins) (Check.Replied q q') (serve q') := by
  cases hq with
  | run htwins => exact attend_alike htwins (h _ _ htwins)
  | same hq =>
    cases q with
    | run c => exact absurd rfl (hq c)
    | log | print | present | remove => exact .ask (.check hq) fun _ _ hr ↦ .done hr

end Interruption

end IngestCheck
