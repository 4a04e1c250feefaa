import IngestCheck.Proofs.Display.Masking
import IngestCheck.Proofs.Script.Scope
import IngestCheck.Runner.Children
import IngestCheck.Runner.Rehearsal

namespace IngestCheck

theorem toString_self (s : String) : toString s = s := rfl

theorem infix_append_cons_iff {α : Type} {u x y : List α} {m : α} (hne : u ≠ []) (hm : m ∉ u) :
    u <:+: x ++ m :: y ↔ u <:+: x ∨ u <:+: y := by
  constructor
  · intro h
    have hwords : u <:+: List.intercalate [m] [x, y] := by simpa using h
    obtain ⟨w, hw, hoccurs⟩ := exists_infix_of_infix_intercalate hne hm hwords
    rcases List.mem_pair.mp hw with rfl | rfl
    · exact .inl hoccurs
    · exact .inr hoccurs
  · rintro (h | h)
    · exact List.infix_append_of_infix_left h
    · exact List.infix_append_of_infix_right (List.infix_cons h)

namespace Command

variable {c : Command} {secret : List Char}

inductive Aspect where
  | line
  | name
  | heading
  | bindings
  | directory
  deriving DecidableEq, Repr

def Aspect.text (c : Command) : Aspect → String
  | .line => c.displayLine
  | .name => c.programName
  | .heading => c.programName ++ ":"
  | .bindings => Quoted.mapping c.bindings.entries
  | .directory => (c.directory.map Quoted.bytes).getD ""

/-- Wording without any aspect, before one, or around one with or without quotes. -/
inductive Remark where
  | plain (text : String)
  | about (start : String) (aspect : Aspect)
  | within (start : String) (aspect : Aspect) (rest : String)
  | quoting (start : String) (aspect : Aspect) (rest : String)
  deriving DecidableEq, Repr

namespace Remark

def text (c : Command) : Remark → String
  | plain text => text
  | about start aspect => start ++ " " ++ aspect.text c
  | within start aspect rest => start ++ " " ++ aspect.text c ++ " " ++ rest
  | quoting start aspect rest => start ++ " '" ++ aspect.text c ++ "'" ++ rest

def wording : Remark → List String
  | plain text => [text]
  | about start _ => [start]
  | within start _ rest | quoting start _ rest => [start, rest]

def aspect? : Remark → Option Aspect
  | plain _ => none
  | about _ aspect | within _ aspect _ | quoting _ aspect _ => some aspect

theorem infix_text_iff (c : Command) (r : Remark) (hne : secret ≠ []) (hspace : ' ' ∉ secret)
    (hquote : '\'' ∉ secret) : secret <:+: (r.text c).toList ↔
      (∃ words ∈ r.wording, secret <:+: words.toList) ∨
        ∃ aspect ∈ r.aspect?, secret <:+: (aspect.text c).toList := by
  cases r with
  | plain text => simp [Remark.text, wording, aspect?]
  | about start aspect =>
    have htext : ((about start aspect).text c).toList =
        start.toList ++ ' ' :: (aspect.text c).toList := by simp [Remark.text]
    rw [htext, infix_append_cons_iff hne hspace]
    simp [wording, aspect?]
  | within start aspect rest =>
    have htext : ((within start aspect rest).text c).toList =
        start.toList ++ ' ' :: ((aspect.text c).toList ++ ' ' :: rest.toList) := by
      simp [Remark.text]
    rw [htext, infix_append_cons_iff hne hspace, infix_append_cons_iff hne hspace]
    simp only [wording, aspect?, List.mem_pair, exists_eq_or_imp, exists_eq_left,
      Option.mem_some_iff, exists_eq_left']
    tauto
  | quoting start aspect rest =>
    have htext : ((quoting start aspect rest).text c).toList =
        start.toList ++ ' ' :: ([] ++ '\'' :: ((aspect.text c).toList ++ '\'' :: rest.toList)) := by
      simp [Remark.text]
    rw [htext, infix_append_cons_iff hne hspace, infix_append_cons_iff hne hquote,
      infix_append_cons_iff hne hquote]
    simp only [wording, aspect?, List.mem_pair, List.infix_nil, hne, false_or, exists_eq_or_imp,
      exists_eq_left, Option.mem_some_iff, exists_eq_left']
    tauto

end Remark

end Command

open Command (Remark)

def Answer.complaint? : Answer → Option String
  | .error e => some e.message
  | .ok _ => none

namespace Children

def logged? : Exchange Request Request.Reply → Option String
  | ⟨.log e, _⟩ => some e.message
  | _ => none

@[simp] theorem logged?_log (e : Event) (r : Unit) : logged? ⟨.log e, r⟩ = some e.message := rfl

def said (answer : Answer) (t : List (Exchange Request Request.Reply)) : List String :=
  t.filterMap logged? ++ answer.complaint?.toList

def startRemarks (c : Command) : List Remark :=
  [.about "Executing subprocess:" .line]
    ++ (if c.bindings.isEmpty then [] else [.about "Environment overrides:" .bindings])
    ++ (if c.directory.isSome then [.about "Working directory:" .directory] else [])

def failureRemark (e : HostError) : Remark :=
  .quoting "IO error running" .line s!": {e.message}"

def refusalRemark (e : HostError) : Remark :=
  match e.kind with
  | .notFound => .about "Command not found:" .name
  | .permissionDenied => .about "Permission denied executing:" .name
  | _ => failureRemark e

def endRemark (status : ExitStatus) (elapsed : Nat) : Remark :=
  match status with
  | .success => .about s!"Subprocess completed successfully in {elapsed}ms:" .line
  | .error code => .about s!"Subprocess failed with exit code {code} in {elapsed}ms:" .line
  | .signal number => .about s!"Subprocess terminated by signal {number} in {elapsed}ms:" .line

def remarksOn (c : Command) : Exchange Request Request.Reply → List Remark
  | ⟨.stopping, true⟩ => [.about "Shutdown requested, not starting" .name, .plain "Interrupted"]
  | ⟨.stopping, false⟩ => startRemarks c
  | ⟨.launch _, .error e⟩ =>
    [.quoting "Failed to spawn" .name s!": {e.message} (kind: {e.kind.name})", refusalRemark e]
  | ⟨.await, .ended ending elapsed⟩ => [endRemark ending.status elapsed]
  | ⟨.await, .failed e⟩ => [failureRemark e]
  | ⟨.await, .stopped⟩ => [.about "Interrupted, stopping" .name]
  | ⟨.kill, .error e⟩ => [.within "Kill of" .name s!"failed: {e.message}"]
  | ⟨.reap, .ok ()⟩ => [.plain "Interrupted"]
  | ⟨.reap, .error e⟩ => [.within "Failed to reap" .heading e.message, .plain "Interrupted"]
  | _ => []

variable (c : Command)

@[simp] theorem remarksOn_log (e : Event) (r : Unit) : remarksOn c ⟨.log e, r⟩ = [] := rfl

theorem text_failureRemark (e : HostError) :
    (failureRemark e).text c = (CommandError.io c.displayLine e).message := by
  have hmessage : (CommandError.io c.displayLine e).message =
      s!"IO error running '{c.displayLine}': {e.message}" := rfl
  rw [hmessage, failureRemark, Remark.text, Command.Aspect.text]
  generalize e.message = message
  simp [← String.toList_inj, toString_self]

theorem text_spawn (e : HostError) :
    (Remark.quoting "Failed to spawn" .name s!": {e.message} (kind: {e.kind.name})").text c =
      s!"Failed to spawn '{c.programName}': {e.message} (kind: {e.kind.name})" := by
  rw [Remark.text, Command.Aspect.text]
  generalize e.message = message
  simp [← String.toList_inj, toString_self]

theorem text_kill (e : HostError) :
    (Remark.within "Kill of" .name s!"failed: {e.message}").text c =
      s!"Kill of {c.programName} failed: {e.message}" := by
  rw [Remark.text, Command.Aspect.text]
  generalize e.message = message
  simp [← String.toList_inj, toString_self]

theorem text_reap (e : HostError) :
    (Remark.within "Failed to reap" .heading e.message).text c =
      s!"Failed to reap {c.programName}: {e.message}" := by
  rw [Remark.text, Command.Aspect.text]
  generalize e.message = message
  simp [← String.toList_inj, toString_self]

theorem text_refusalRemark (e : HostError) :
    (refusalRemark e).text c = (launchError c e).message := by
  unfold refusalRemark launchError
  cases e.kind with
  | notFound | permissionDenied => rfl
  | _ => exact text_failureRemark c e

theorem conclude_eq (status : ExitStatus) (elapsed : Nat) :
    conclude c status elapsed = log (match status with | .signal _ => .warn | _ => .debug)
      ((endRemark status elapsed).text c) := by
  have hend (start : String) : start ++ "ms: " = start ++ "ms:" ++ " " := by
    simp [← String.toList_inj]
  cases status <;>
    simp only [conclude, endRemark, Remark.text, Command.Aspect.text, toString_self, hend]

theorem announce_ensures : (announce c).Ensures fun _ t ↦
    t.filterMap logged? = (startRemarks c).map (Remark.text c) ∧ t.flatMap (remarksOn c) = [] := by
  unfold announce startRemarks
  simp only [log, Script.bind_eq, Script.request_bind, Script.pure_eq, Script.Ensures]
  intro _
  split <;> cases hdir : c.directory <;>
    simp_all [Script.request, Script.Ensures, Remark.text, Command.Aspect.text, toString_self]

/-- What is said is what there is to say on the replies, and nothing else. -/
def Apt (answer : Answer) (t : List (Exchange Request Request.Reply)) : Prop :=
  said answer t = (t.flatMap (remarksOn c)).map (Remark.text c)

theorem apt_append {answer : Answer} {t t' : List (Exchange Request Request.Reply)}
    (ht : t.filterMap logged? = (t.flatMap (remarksOn c)).map (Remark.text c))
    (ht' : Apt c answer t') : Apt c answer (t ++ t') := by
  have hsaid : said answer (t ++ t') = t.filterMap logged? ++ said answer t' := by
    rw [said, said, List.filterMap_append, List.append_assoc]
  rw [Apt, hsaid, ht, ht', List.flatMap_append, List.map_append]

theorem apt_of_announced {answer : Answer} {t t' : List (Exchange Request Request.Reply)}
    (hlogged : t.filterMap logged? = (startRemarks c).map (Remark.text c))
    (hnone : t.flatMap (remarksOn c) = []) (h : Apt c answer t') :
    Apt c answer (⟨.stopping, false⟩ :: (t ++ t')) := by
  have hremarks : (⟨.stopping, false⟩ :: t).flatMap (remarksOn c) = startRemarks c := by
    rw [List.flatMap_cons, hnone, List.append_nil]
    rfl
  refine apt_append c (t := ⟨.stopping, false⟩ :: t) ?_ h
  rw [hremarks, List.filterMap_cons_none rfl, hlogged]

theorem strike_ensures : (strike c).Ensures fun _ t ↦
    t.filterMap logged? = (t.flatMap (remarksOn c)).map (Remark.text c) := by
  intro killed
  cases killed with
  | ok _ => rfl
  | error e => exact fun _ ↦ congrArg ([·]) (text_kill c e).symm

/-- Once the child is gone, or may be, nothing is left but to answer that there was a stop. -/
theorem collect_ensures : (collect c).Ensures fun _ t ↦ Apt c (.error .interrupted) t := by
  intro reaped
  cases reaped with
  | ok _ => rfl
  | error e => exact fun _ ↦ congrArg (fun x ↦ [x, "Interrupted"]) (text_reap c e).symm

theorem stop_ensures : (stop c).Ensures fun _ t ↦
    Apt c (.error .interrupted) (⟨.await, .stopped⟩ :: t) := by
  unfold stop
  simp only [log, Script.bind_eq, Script.request_bind, Script.Ensures]
  intro _
  refine Script.Ensures.bind ((strike_ensures c).mono fun _ t ht ↦ ?_)
  refine (collect_ensures c).mono fun _ t' ht' ↦ ?_
  have happended := apt_append c ht ht'
  exact congrArg (s!"Interrupted, stopping {c.programName}" :: ·) happended

theorem run_apt : (run c).Ensures (Apt c) := by
  unfold run
  simp only [stopping, launch, await, log, Script.bind_eq, Script.request_bind,
    Script.pure_eq, Script.Ensures]
  intro stop
  cases stop with
  | true => exact fun _ ↦ rfl
  | false =>
    -- what the announcement says was due on the reply before it, so the later replies stand alone
    refine Script.Ensures.bind ((announce_ensures c).mono ?_)
    rintro _ t ⟨hlogged, hnone⟩ launched
    cases launched with
    | error e =>
      intro _
      refine apt_of_announced c hlogged hnone ?_
      exact congrArg₂ (fun x y ↦ [x, y]) (text_spawn c e).symm (text_refusalRemark c e).symm
    | ok _ =>
      intro awaited
      cases awaited with
      | stopped =>
        refine Script.Ensures.bind ((stop_ensures c).mono fun _ t' ht' ↦ ?_)
        rw [Script.Ensures, List.append_nil]
        exact apt_of_announced c hlogged hnone ht'
      | failed e =>
        refine apt_of_announced c hlogged hnone ?_
        exact congrArg ([·]) (text_failureRemark c e).symm
      | ended ending elapsed =>
        dsimp only
        rw [conclude_eq]
        exact fun _ ↦ apt_of_announced c hlogged hnone rfl

end Children

namespace Rehearsal

def Response.remarks : Response → List Remark
  | .status _ => []
  | .notFound => [.about "Command not found:" .name]
  | .interrupted => [.plain "Interrupted"]

def remarks (r : Rehearsal) (c : Command) : List Remark :=
  match r.expectations.find? (·.fits c) with
  | some e => e.response.remarks
  | none => [.about "Mock expectation not met: No expectation found for command:" .line]

theorem text_unexpected (c : Command) :
    (CommandError.unexpected s!"No expectation found for command: {c.displayLine}").message =
      (Remark.about "Mock expectation not met: No expectation found for command:" .line).text c := by
  have hmessage (text : String) : (CommandError.unexpected text).message =
      "Mock expectation not met: " ++ text := rfl
  rw [hmessage, Remark.text, Command.Aspect.text]
  simp [← String.toList_inj, toString_self]

theorem complaint?_answer (r : Rehearsal) (c : Command) :
    (r.answer c).complaint?.toList = (r.remarks c).map (Remark.text c) := by
  unfold answer remarks
  cases r.expectations.find? (·.fits c) with
  | none => exact congrArg ([·]) (text_unexpected c)
  | some e =>
    obtain ⟨_, _, response⟩ := e
    cases response <;> rfl

end Rehearsal

/-- Somebody who runs a command and may say something about it: the runner of child processes among
those who answer it, or a rehearsal. -/
inductive Runner where
  | children (w : Responder Children.Request Children.Request.Reply)
  | rehearsal (r : Rehearsal)

namespace Runner

def said (c : Command) : Runner → List String
  | children w => Children.said ((Children.run c).play w []).1 ((Children.run c).play w []).2
  | rehearsal r => (r.run c).1.complaint?.toList

def remarks (c : Command) : Runner → List Remark
  | children w => ((Children.run c).play w []).2.flatMap (Children.remarksOn c)
  | rehearsal r => r.remarks c

theorem said_eq (c : Command) (runner : Runner) :
    runner.said c = (runner.remarks c).map (Remark.text c) := by
  cases runner with
  | children w =>
    obtain ⟨t, ht, hapt⟩ := (Children.run_apt c).play w []
    rw [List.nil_append] at ht
    rw [said, remarks, ht]
    exact hapt
  | rehearsal r => exact r.complaint?_answer c

/-- Something that a runner says reveals a secret exactly if a remark shows the name of the program,
the bindings or the directory, and the secret can be read there. These aspects are not masked; the
line that is shown in all other remarks is. -/
theorem reveals_iff (runner : Runner) (c : Command) {secret : Bytes} (hmem : secret ∈ c.secrets)
    (hne : secret ≠ []) (hfree : (Utf8.lossy secret).Disjoint ['*', ' ', '\'', '\\'])
    (hwording : ∀ r ∈ runner.remarks c, ∀ words ∈ r.wording,
      ¬ Utf8.lossy secret <:+: words.toList) :
    (∃ message ∈ runner.said c, Utf8.lossy secret <:+: message.toList) ↔
      ∃ r ∈ runner.remarks c, ∃ aspect ∈ r.aspect?,
        aspect ≠ .line ∧ Utf8.lossy secret <:+: (aspect.text c).toList := by
  have hspace : ' ' ∉ Utf8.lossy secret := fun h ↦ hfree h (by decide)
  have hquote : '\'' ∉ Utf8.lossy secret := fun h ↦ hfree h (by decide)
  have htext (r : Remark) := r.infix_text_iff c (Utf8.lossy_ne_nil hne) hspace hquote
  rw [said_eq]
  constructor
  · rintro ⟨message, hmessage, hoccurs⟩
    obtain ⟨r, hr, rfl⟩ := List.mem_map.mp hmessage
    rcases (htext r).mp hoccurs with ⟨words, hwords, hoccurs⟩ | ⟨aspect, haspect, hoccurs⟩
    · exact absurd hoccurs (hwording r hr words hwords)
    · refine ⟨r, hr, aspect, haspect, ?_, hoccurs⟩
      rintro rfl
      exact Command.not_infix_line (Command.lossy_mem_masked hmem hne) hfree hoccurs
  · rintro ⟨r, hr, aspect, haspect, -, hoccurs⟩
    exact ⟨r.text c, List.mem_map_of_mem hr, (htext r).mpr (.inr ⟨aspect, haspect, hoccurs⟩)⟩

def lacking : Runner := .children fun _ q ↦
  match q with
  | .log _ => ()
  | .stopping => false
  | .launch _ => .error .noEntry
  | .await => .stopped
  | .kill | .reap => .ok ()

/-- The name of the program is shown, and it has nothing to do with the secret. -/
theorem reveals_iff_lacking :
    (("bcd" : Bytes) ∈ Command.exampleCommand.secrets ∧ ("bcd" : Bytes) ≠ [] ∧
      (Utf8.lossy "bcd").Disjoint ['*', ' ', '\'', '\\'] ∧
      ∀ r ∈ lacking.remarks Command.exampleCommand, ∀ words ∈ r.wording,
        ¬ Utf8.lossy "bcd" <:+: words.toList) ∧
      ¬ ∃ message ∈ lacking.said Command.exampleCommand,
        Utf8.lossy "bcd" <:+: message.toList := by
  have hmem : ("bcd" : Bytes) ∈ Command.exampleCommand.secrets := by decide
  have hne : ("bcd" : Bytes) ≠ [] := by decide
  have hlossy : Utf8.lossy "bcd" = ['b', 'c', 'd'] := by decide
  have hfree : (Utf8.lossy "bcd").Disjoint ['*', ' ', '\'', '\\'] := by simp [hlossy]
  have hwording : ∀ r ∈ lacking.remarks Command.exampleCommand, ∀ words ∈ r.wording,
      ¬ Utf8.lossy "bcd" <:+: words.toList := by decide +kernel
  refine ⟨⟨hmem, hne, hfree, hwording⟩, ?_⟩
  rw [lacking.reveals_iff Command.exampleCommand hmem hne hfree hwording]
  decide +kernel

def leakyCommand : Command where
  program := "no-such-tool-s3cr3t"
  arguments := ["--key", "s3cr3t"]
  secrets := ["s3cr3t"]

/-- In the line the secret is masked, but not where the program is named. -/
theorem lacking_reveals :
    (("s3cr3t" : Bytes) ∈ leakyCommand.secrets ∧ ("s3cr3t" : Bytes) ≠ [] ∧
      (Utf8.lossy "s3cr3t").Disjoint ['*', ' ', '\'', '\\'] ∧
      ∀ r ∈ lacking.remarks leakyCommand, ∀ words ∈ r.wording,
        ¬ Utf8.lossy "s3cr3t" <:+: words.toList) ∧
      lacking.said leakyCommand =
        ["Executing subprocess: 'no-such-tool-***' --key '***'",
         "Failed to spawn 'no-such-tool-s3cr3t': No such file or directory (os error 2) " ++
           "(kind: NotFound)",
         "Command not found: no-such-tool-s3cr3t"] ∧
      ∃ message ∈ lacking.said leakyCommand, Utf8.lossy "s3cr3t" <:+: message.toList := by
  have hlossy : Utf8.lossy "s3cr3t" = "s3cr3t".toList := by decide
  have hfree : (Utf8.lossy "s3cr3t").Disjoint ['*', ' ', '\'', '\\'] := by simp [hlossy]
  refine ⟨⟨by decide, by decide, hfree, by decide +kernel⟩, by decide +kernel, by decide +kernel⟩

end Runner

end IngestCheck
