import IngestCheck.Proofs.Rehearsal.Requests

namespace IngestCheck.Rehearsal

structure Expectation.For (e : Expectation) (c : Command) : Prop where
  program_eq : c.program = Bytes.ofString e.program
  accepted : ∀ accepts, e.accepts = some accepts → accepts c.arguments = true

structure Earliest (es : List Expectation) (c : Command) (e : Expectation) : Prop where
  isFor : e.For c
  first : ∃ earlier later, es = earlier ++ e :: later ∧ ∀ e' ∈ earlier, ¬ e'.For c

inductive Answered (es : List Expectation) (c : Command) : Answer → Prop
  | status {e : Expectation} {status : ExitStatus} (he : Earliest es c e)
    (hresponse : e.response = .status status) : Answered es c (.ok status)
  | notFound {e : Expectation} (he : Earliest es c e) (hresponse : e.response = .notFound) :
    Answered es c (.error (.notFound c.programName))
  | interrupted {e : Expectation} (he : Earliest es c e) (hresponse : e.response = .interrupted) :
    Answered es c (.error .interrupted)
  | unexpected (hnone : ∀ e ∈ es, ¬ e.For c) :
    Answered es c (.error (.unexpected s!"No expectation found for command: {c.displayLine}"))

section

variable {es : List Expectation} {c : Command} {e : Expectation}

theorem fits_iff : e.fits c = true ↔ e.For c := by
  rw [Expectation.fits, Bool.and_eq_true, decide_eq_true_iff]
  constructor
  · rintro ⟨hprogram, haccepts⟩
    refine ⟨hprogram, fun accepts heq ↦ ?_⟩
    rwa [heq] at haccepts
  · rintro ⟨hprogram, haccepted⟩
    refine ⟨hprogram, ?_⟩
    cases heq : e.accepts with
    | none => rfl
    | some accepts => exact haccepted accepts heq

theorem find?_eq_some_iff_earliest : es.find? (·.fits c) = some e ↔ Earliest es c e := by
  simp only [List.find?_eq_some_iff_append, fits_iff, Bool.not_eq_true', ← Bool.not_eq_true]
  exact ⟨fun ⟨hfor, earlier, later, heq, hfirst⟩ ↦ ⟨hfor, earlier, later, heq, hfirst⟩,
    fun ⟨hfor, earlier, later, heq, hfirst⟩ ↦ ⟨hfor, earlier, later, heq, hfirst⟩⟩

theorem answer_answered (r : Rehearsal) (c : Command) :
    Answered r.expectations c (r.answer c) := by
  rw [answer]
  split
  case h_1 e hfind =>
    have he := find?_eq_some_iff_earliest.mp hfind
    cases hresponse : e.response with
    | status s => exact .status he hresponse
    | notFound => exact .notFound he hresponse
    | interrupted => exact .interrupted he hresponse
  case h_2 hfind =>
    refine .unexpected fun e he hfor ↦ ?_
    exact List.find?_eq_none.mp hfind e he (fits_iff.mpr hfor)

theorem Earliest.append (h : Earliest es c e) (more : List Expectation) :
    Earliest (es ++ more) c e := by
  obtain ⟨hfor, earlier, later, heq, hfirst⟩ := h
  refine ⟨hfor, earlier, later ++ more, ?_, hfirst⟩
  rw [heq, List.append_assoc, List.cons_append]

theorem Earliest.answer_eq {r r' : Rehearsal} (h : Earliest r.expectations c e)
    (h' : Earliest r'.expectations c e) : r.answer c = r'.answer c := by
  rw [answer, answer, find?_eq_some_iff_earliest.mpr h, find?_eq_some_iff_earliest.mpr h']

end

theorem registered_prefix (before later : List Request) :
    registered before <+: registered (before ++ later) := by
  induction later using List.reverseRecOn with
  | nil => simp
  | append_singleton later q ih =>
    refine ih.trans ?_
    rw [← List.append_assoc, registered, registered, List.reverse_concat]
    cases q with
    | finish draft => exact (List.prefix_append _ _).map _
    | prepare | call | abandon | run | history | callsTo | verifyCalled => exact List.prefix_rfl

def Request.draft? : Request → Option ℕ
  | .prepare draft _ | .call draft _ | .abandon draft => some draft
  | _ => none

/-- Whether an expectation, as it stands before some requests, is finished in the end. -/
def finishes (draft : ℕ) : List Request → Bool
  | [] => false
  | .finish x :: later => draft = x || finishes draft later
  | .prepare x _ :: later | .abandon x :: later => draft ≠ x && finishes draft later
  | .call _ _ :: later | .run _ :: later | .history :: later | .callsTo _ :: later
  | .verifyCalled _ _ :: later => finishes draft later

/-- The requests without those that are about expectations never finished. -/
def heeded : List Request → List Request
  | [] => []
  | q :: later => if q.draft?.all (finishes · later) then q :: heeded later else heeded later

/-- Desks that are the same but for what is never finished. -/
structure Desk.Like (later : List Request) (d d' : Desk) : Prop where
  session : d.session = d'.session
  drafts : ∀ x, finishes x later = true → d.drafts x = d'.drafts x

namespace Desk.Like

variable {q : Request} {later : List Request} {d d' : Desk} {draft : ℕ}
  {change : Option Draft → Option Draft}

theorem edit (hsession : d.session = d'.session)
    (hdrafts : ∀ x ≠ draft, finishes x later = true → d.drafts x = d'.drafts x)
    (hchange : change (d.drafts draft) = change (d'.drafts draft)) :
    Like later (d.edit draft change) (d'.edit draft change) := by
  refine ⟨hsession, fun x hx ↦ ?_⟩
  change (if x = draft then _ else _) = if x = draft then _ else _
  split
  case isTrue heq => rw [heq, hchange]
  case isFalse hne => exact hdrafts x hne hx

theorem edit_left (hsession : d.session = d'.session)
    (hdrafts : ∀ x ≠ draft, finishes x later = true → d.drafts x = d'.drafts x)
    (hdraft : finishes draft later = false) : Like later (d.edit draft change) d' := by
  refine ⟨hsession, fun x hx ↦ ?_⟩
  have hne : x ≠ draft := by
    rintro rfl
    exact Bool.false_ne_true (hdraft.symm.trans hx)
  exact (if_neg hne).trans (hdrafts x hne hx)

theorem heed (h : Like (q :: later) d d') (hq : q.draft?.all (finishes · later) = true) :
    Like later (next d q) (next d' q) := by
  obtain ⟨hsession, hdrafts⟩ := h
  cases q with
  | prepare draft program =>
    change Like later (d.edit draft fun _ ↦ some { program })
      (d'.edit draft fun _ ↦ some { program })
    refine edit hsession (fun x hx hlater ↦ hdrafts x ?_) rfl
    simpa [finishes, hx] using hlater
  | call draft call =>
    have hdraft : d.drafts draft = d'.drafts draft := hdrafts draft hq
    exact edit hsession (fun x _ hlater ↦ hdrafts x hlater) (congrArg _ hdraft)
  | abandon draft =>
    change Like later (d.edit draft fun _ ↦ none) (d'.edit draft fun _ ↦ none)
    refine edit hsession (fun x hx hlater ↦ hdrafts x ?_) rfl
    simpa [finishes, hx] using hlater
  | finish draft =>
    have hdraft : d.drafts draft = d'.drafts draft := hdrafts draft (by simp [finishes])
    change Like later (d.finish draft) (d'.finish draft)
    unfold Desk.finish
    refine edit ?_ (fun x hx hlater ↦ hdrafts x ?_) rfl
    · rw [hsession, hdraft]
    · simpa [finishes, hx] using hlater
  | run command =>
    refine ⟨?_, hdrafts⟩
    change ((Session.perform command).run d.session).2 =
      ((Session.perform command).run d'.session).2
    rw [hsession]
  | history | callsTo | verifyCalled => exact ⟨hsession, hdrafts⟩

theorem skip (h : Like (q :: later) d d') (hq : q.draft?.all (finishes · later) = false) :
    Like later (next d q) d' := by
  obtain ⟨hsession, hdrafts⟩ := h
  cases q with
  | prepare draft program =>
    change Like later (d.edit draft fun _ ↦ some { program }) d'
    refine edit_left hsession (fun x hx hlater ↦ hdrafts x ?_) hq
    simpa [finishes, hx] using hlater
  | call draft => exact edit_left hsession (fun x _ hlater ↦ hdrafts x hlater) hq
  | abandon draft =>
    change Like later (d.edit draft fun _ ↦ none) d'
    refine edit_left hsession (fun x hx hlater ↦ hdrafts x ?_) hq
    simpa [finishes, hx] using hlater
  | finish | run | history | callsTo | verifyCalled => cases hq

end Desk.Like

/-- What is never finished leaves no trace in a session, even if it is worked at for long. -/
theorem heeded_session (requests : List Request) {d d' : Desk} (h : d.Like requests d') :
    (requests.foldl next d).session = ((heeded requests).foldl next d').session := by
  induction requests generalizing d d' with
  | nil => exact h.session
  | cons q later ih =>
    -- the desks may differ in the drafts, but not in those that `later` finishes
    rw [List.foldl_cons, heeded]
    split
    case isTrue hq => exact ih (h.heed hq)
    case isFalse hq => exact ih (h.skip (eq_false_of_ne_true hq))

theorem serve_fst_eq {d d' : Desk} (h : d.session = d'.session) (q : Request) :
    (serve q d).1 = (serve q d').1 := by
  cases q with
  | run | history | callsTo | verifyCalled => simp only [serve, h]
  | prepare | call | finish | abandon => rfl

/-- What the requests so far mean for those to come. -/
structure Rehearsed (s : Session) (before : List Request) : Prop where
  performer : (after s before).session.performer =
    .rehearsal ⟨registered before, commands before⟩
  made : List.Forall₂ (fun m e ↦ Expectation.MadeBy e m.1 m.2) (finished before.reverse)
    (registered before)
  answered : ∀ c, Answered (registered before) c (reply s before (.run c))
  kept : ∀ later, registered before <+: registered (before ++ later)
  again : ∀ c e, Earliest (registered before) c e → ∀ later,
    reply s (before ++ later) (.run c) = reply s before (.run c)
  abandoned : ∀ q, reply s (heeded before) q = reply s before q
  history : reply s before .history = commands before
  callsTo : ∀ program, reply s before (.callsTo program) =
    (commands before).filter fun c ↦ c.program = Bytes.ofString program
  verifyCalled : ∀ program times, reply s before (.verifyCalled program times) = true ↔
    (reply s before (.callsTo program)).length = times

/-- Whatever has been asked of a runner so far, in whatever order, its expectations stand in the
order in which they were finished, and the replies follow from them and from the commands run. -/
theorem rehearsed (s : Session) (before : List Request) : Rehearsed s before := by
  have hstanding (before : List Request) := (after_standing s before).performer
  have hrun (before : List Request) (c : Command) : reply s before (.run c) =
      answer ⟨registered before, commands before⟩ c := by
    change ((Session.perform c).run (after s before).session).1 = _
    rw [perform_run (hstanding before)]
  constructor
  case performer => exact hstanding before
  case made =>
    rw [registered, List.forall₂_map_right_iff, List.forall₂_same]
    exact fun m _ ↦ Expectation.ofCalls_madeBy m.1 m.2
  case answered =>
    intro c
    rw [hrun]
    exact answer_answered ⟨registered before, commands before⟩ c
  case kept => exact registered_prefix before
  case again =>
    intro c e he later
    obtain ⟨more, hmore⟩ := registered_prefix before later
    rw [hrun, hrun]
    refine Earliest.answer_eq ?_ he
    rw [← hmore]
    exact he.append more
  case abandoned =>
    intro q
    exact serve_fst_eq (heeded_session before ⟨rfl, fun _ _ ↦ rfl⟩).symm q
  case history =>
    change (after s before).session.history = _
    rw [Session.history, hstanding]
  case callsTo =>
    intro program
    change (after s before).session.callsTo program = _
    rw [Session.callsTo, hstanding]
    rfl
  case verifyCalled =>
    intro program times
    exact decide_eq_true_iff

end IngestCheck.Rehearsal
