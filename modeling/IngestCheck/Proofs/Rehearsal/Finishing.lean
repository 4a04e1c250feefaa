import IngestCheck.Proofs.Rehearsal.Answers

namespace IngestCheck.Rehearsal

def madeUp (draft : ℕ) (program : String) (calls : List Draft.Call) : List Request :=
  .prepare draft program :: calls.map (.call draft) ++ [.finish draft]

section

variable {draft : ℕ} {program : String} {calls : List Draft.Call}

theorem Desk.edit_edit (d : Desk) (change change' : Option Draft → Option Draft) :
    (d.edit draft change).edit draft change' = d.edit draft (change' ∘ change) := by
  obtain ⟨session, drafts⟩ := d
  rw [edit, edit, edit, Desk.mk.injEq]
  refine ⟨rfl, funext fun x ↦ ?_⟩
  by_cases hx : x = draft
  · simp [hx]
  · simp [hx]

theorem foldl_next_calls (d : Desk) (made : Draft) (calls : List Draft.Call) :
    (calls.map (.call draft)).foldl next (d.edit draft fun _ ↦ some made) =
      d.edit draft fun _ ↦ some (calls.foldl Draft.add made) := by
  induction calls generalizing made with
  | nil => rfl
  | cons call calls ih =>
    have hcall : next (d.edit draft fun _ ↦ some made) (.call draft call) =
        d.edit draft fun _ ↦ some (made.add call) := d.edit_edit _ _
    rw [List.map_cons, List.foldl_cons, hcall, ih, List.foldl_cons]

theorem session_finish (d : Desk) (made : Draft) :
    ((d.edit draft fun _ ↦ some made).finish draft).session = d.session.expect made.finish := by
  have hmade : (d.edit draft fun _ ↦ some made).drafts draft = some made := if_pos rfl
  rw [Desk.finish, hmade]
  rfl

/-- Making up an expectation does no more to a session than to register it. -/
theorem session_after_madeUp (s : Session) (before : List Request) (draft : ℕ) (program : String)
    (calls : List Draft.Call) : (after s (before ++ madeUp draft program calls)).session =
      (after s before).session.expect (Draft.build program calls).finish := by
  have hprepare : next (after s before) (.prepare draft program) =
      (after s before).edit draft fun _ ↦ some { program } := rfl
  have hfinish (d : Desk) : next d (.finish draft) = d.finish draft := rfl
  rw [after, List.foldl_append, ← after, madeUp, List.foldl_concat, List.foldl_cons, hprepare,
    foldl_next_calls, hfinish, session_finish, Draft.build]

end

/-- What an expectation is once it has been made up by some calls and finished. -/
structure Concluded (s : Session) (before : List Request) (draft : ℕ) (program : String)
    (calls : List Draft.Call) (e : Expectation) : Prop extends e.MadeBy program calls where
  performer : (after s (before ++ madeUp draft program calls)).session.performer =
    .rehearsal ⟨registered before ++ [e], commands before⟩
  answered : ∀ c, e.For c → (∀ e' ∈ registered before, ¬ e'.For c) →
    let a := reply s (before ++ madeUp draft program calls) (.run c)
    (∀ status, Draft.Decided calls (.status status) → a = .ok status) ∧
      (Draft.Decided calls .notFound → a = .error (.notFound c.programName)) ∧
      (Draft.Decided calls .interrupted → a = .error .interrupted)
  undisturbed : (∃ call ∈ calls, call.failure? ≠ none) → ∀ calls',
    calls.filter (·.status? = none) = calls'.filter (·.status? = none) →
      e = (Draft.build program calls').finish ∧
        (after s (before ++ madeUp draft program calls)).session =
          (after s (before ++ madeUp draft program calls')).session

/-- Whatever calls an expectation is made up by, it is registered behind those that were finished
before it, and the last calls of each kind decide whom it is for and what it answers. -/
theorem finish_concluded (s : Session) (before : List Request) (draft : ℕ) (program : String)
    (calls : List Draft.Call) :
    Concluded s before draft program calls (Draft.build program calls).finish := by
  have hperformer : (after s (before ++ madeUp draft program calls)).session.performer =
      .rehearsal ⟨registered before ++ [(Draft.build program calls).finish], commands before⟩ := by
    rw [session_after_madeUp]
    exact expect_performer (after_standing s before).performer _
  have hmade : (Draft.build program calls).finish.MadeBy program calls := by
    rw [Draft.finish_build]
    exact Expectation.ofCalls_madeBy program calls
  constructor
  case toMadeBy => exact hmade
  case performer => exact hperformer
  case answered =>
    intro c hfor hearlier
    -- nothing registered before is for the command, so the new expectation is the earliest
    have hfirst : Earliest (registered before ++ [(Draft.build program calls).finish]) c
        (Draft.build program calls).finish := ⟨hfor, registered before, [], rfl, hearlier⟩
    have hreply : reply s (before ++ madeUp draft program calls) (.run c) =
        (Draft.build program calls).finish.response.answer c := by
      change ((Session.perform c).run (after s _).session).1 = _
      rw [perform_run hperformer, answer, find?_eq_some_iff_earliest.mpr hfirst]
    intro a
    refine ⟨fun status hstatus ↦ ?_, fun hnotFound ↦ ?_, fun hinterrupted ↦ ?_⟩
    · exact hreply.trans (congrArg _ ((hmade.response_iff _).mpr hstatus))
    · exact hreply.trans (congrArg _ ((hmade.response_iff _).mpr hnotFound))
    · exact hreply.trans (congrArg _ ((hmade.response_iff _).mpr hinterrupted))
  case undisturbed =>
    intro hfailure calls' hcalls
    have hexpectation := Draft.finish_build_eq_of_filter_eq program hfailure hcalls
    refine ⟨hexpectation, ?_⟩
    rw [session_after_madeUp, session_after_madeUp, hexpectation]

end IngestCheck.Rehearsal
