import IngestCheck.Proofs.Command.Independence
import IngestCheck.Runner.Rehearsal

namespace IngestCheck.Rehearsal

namespace Draft

def Call.accepts? : Call → Option (List Bytes → Bool)
  | .arguments accepts => some accepts
  | _ => none

def Call.status? : Call → Option ExitStatus
  | .exitCode code => some (if code = 0 then .success else .error code)
  | .signal number => some (.signal number)
  | .success => some .success
  | _ => none

def Call.failure? : Call → Option Response
  | .notFound => some .notFound
  | .interrupted => some .interrupted
  | _ => none

/-- What an expectation answers with after some calls. A failure is answered whatever is said on the
status. -/
inductive Decided (calls : List Call) : Response → Prop
  | failure {r : Response} (hlast : (calls.filterMap Call.failure?).getLast? = some r) :
    Decided calls r
  | status {s : ExitStatus} (hfailure : ∀ call ∈ calls, call.failure? = none)
    (hlast : (calls.filterMap Call.status?).getLast? = some s) : Decided calls (.status s)
  | neither (hfailure : ∀ call ∈ calls, call.failure? = none)
    (hstatus : ∀ call ∈ calls, call.status? = none) : Decided calls (.status .success)

end Draft

namespace Expectation

structure MadeBy (e : Expectation) (program : String) (calls : List Draft.Call) : Prop where
  program_eq : e.program = program
  accepts_eq : e.accepts = (calls.filterMap Draft.Call.accepts?).getLast?
  response_iff : ∀ r, e.response = r ↔ Draft.Decided calls r

def ofCalls (program : String) (calls : List Draft.Call) : Expectation where
  program
  accepts := (calls.filterMap Draft.Call.accepts?).getLast?
  response := (calls.filterMap Draft.Call.failure?).getLast?.getD
    (.status ((calls.filterMap Draft.Call.status?).getLast?.getD .success))

theorem response_ofCalls_iff (program : String) {calls : List Draft.Call} (r : Response) :
    (ofCalls program calls).response = r ↔ Draft.Decided calls r := by
  rw [ofCalls]
  dsimp only
  constructor
  · rintro rfl
    cases hfailure : (calls.filterMap Draft.Call.failure?).getLast? with
    | some r => exact .failure hfailure
    | none =>
      rw [List.getLast?_eq_none_iff, List.filterMap_eq_nil_iff] at hfailure
      cases hstatus : (calls.filterMap Draft.Call.status?).getLast? with
      | some s => exact .status hfailure hstatus
      | none =>
        rw [List.getLast?_eq_none_iff, List.filterMap_eq_nil_iff] at hstatus
        exact .neither hfailure hstatus
  · intro h
    cases h with
    | failure hlast => rw [hlast, Option.getD_some]
    | status hfailure hlast => simp [List.filterMap_eq_nil_iff.mpr hfailure, hlast]
    | neither hfailure hstatus =>
      simp [List.filterMap_eq_nil_iff.mpr hfailure, List.filterMap_eq_nil_iff.mpr hstatus]

theorem ofCalls_madeBy (program : String) (calls : List Draft.Call) :
    (ofCalls program calls).MadeBy program calls :=
  ⟨rfl, rfl, response_ofCalls_iff program⟩

end Expectation

namespace Draft

variable {calls calls' : List Call}

theorem build_concat (program : String) (calls : List Call) (call : Call) :
    build program (calls ++ [call]) = (build program calls).add call := by
  rw [build, build, List.foldl_append, List.foldl_cons, List.foldl_nil]

theorem add_eq (d : Draft) (call : Call) : d.add call =
    { program := d.program
      accepts := call.accepts?.or d.accepts
      status := call.status?.getD d.status
      failure := call.failure?.or d.failure } := by
  cases call <;> rfl

theorem build_eq (program : String) (calls : List Call) : build program calls =
    { program
      accepts := (calls.filterMap Call.accepts?).getLast?
      status := (calls.filterMap Call.status?).getLast?.getD .success
      failure := (calls.filterMap Call.failure?).getLast? } := by
  induction calls using List.reverseRecOn with
  | nil => rfl
  | append_singleton calls call ih =>
    rw [build_concat, ih, add_eq]
    simp only [getLast?_filterMap_concat]
    rw [Option.getD_or]

theorem finish_build (program : String) (calls : List Call) :
    (build program calls).finish = .ofCalls program calls := by
  rw [build_eq, finish, Expectation.ofCalls]

theorem accepts?_eq_none {call : Call} (h : call.status? ≠ none) : call.accepts? = none := by
  cases call with
  | arguments => exact absurd rfl h
  | exitCode | signal | success | notFound | interrupted => rfl

theorem failure?_eq_none {call : Call} (h : call.status? ≠ none) : call.failure? = none := by
  cases call with
  | notFound | interrupted => exact absurd rfl h
  | arguments | exitCode | signal | success => rfl

theorem finish_build_eq_of_filter_eq (program : String)
    (hfailure : ∃ call ∈ calls, call.failure? ≠ none)
    (h : calls.filter (·.status? = none) = calls'.filter (·.status? = none)) :
    (build program calls).finish = (build program calls').finish := by
  have haccepts : calls.filterMap Call.accepts? = calls'.filterMap Call.accepts? :=
    filterMap_eq_of_filter_eq (fun _ ↦ accepts?_eq_none) h
  have hfailures : calls.filterMap Call.failure? = calls'.filterMap Call.failure? :=
    filterMap_eq_of_filter_eq (fun _ ↦ failure?_eq_none) h
  have hlast : (calls'.filterMap Call.failure?).getLast? ≠ none := by
    rw [← hfailures, ne_eq, List.getLast?_eq_none_iff, List.filterMap_eq_nil_iff]
    simpa using hfailure
  obtain ⟨r, hr⟩ := Option.ne_none_iff_exists'.mp hlast
  rw [finish_build, finish_build, Expectation.ofCalls, Expectation.ofCalls, haccepts, hfailures, hr,
    Option.getD_some, Option.getD_some]

/-- The status in between is of no account, and neither is the earlier failure. -/
example : (build "tool" [.exitCode 3, .notFound, .signal 9, .interrupted, .success]).finish.response
    = .interrupted := rfl

end Draft

end IngestCheck.Rehearsal
