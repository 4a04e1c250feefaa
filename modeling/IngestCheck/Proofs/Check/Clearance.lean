import IngestCheck.Host.Children
import IngestCheck.Proofs.Check.Tidying
import IngestCheck.Proofs.Host.Removal
import Mathlib.Computability.Primrec.List

namespace IngestCheck.Host

structure Refusal where
  error : HostError
  kept : List Place

def FileTree.tried (t : FileTree) (cwd : Place) (p : Path) : Option Refusal → FileTree
  | none => (t.removeAll cwd p).2
  | some refusal => t.giveUp cwd p refusal.kept

/-- A host that gives up some removals. It is settled beforehand which, by the order in which the
paths are looked for. -/
structure Reluctant where
  parent : Parent
  upcoming : List (Option Refusal)
  current : Option Refusal := none

namespace Reluctant

def files (h : Reluctant) : FileTree := h.parent.host.files

def directory (h : Reluctant) : Place := h.parent.host.directory

def lift {α : Type} (act : StateM Parent α) : StateM Reluctant α := fun h ↦
  let (result, parent) := act h.parent
  (result, { h with parent })

def refuse (h : Reluctant) (path : Path) (refusal : Refusal) : Reluctant :=
  let files := h.files.giveUp h.directory path refusal.kept
  { h with parent := { h.parent with host := { h.parent.host with files } } }

def serve : (q : Check.Request) → StateM Reluctant q.Reply
  | .present path => fun h ↦
    lift (Parent.serve (.present path))
      { h with upcoming := h.upcoming.tail, current := h.upcoming.head?.join }
  | .remove path => fun h ↦
    match h.current with
    | none => lift (Parent.serve (.remove path)) h
    | some refusal => (.error refusal.error, h.refuse path refusal)
  | .log event => lift (Parent.serve (.log event))
  | .print stream text => lift (Parent.serve (.print stream text))
  | .run command => lift (Parent.serve (.run command))

def view (h : Reluctant) : FileTree × Place × List (Option Refusal) × Option Refusal :=
  (h.files, h.directory, h.upcoming, h.current)

section

variable (h : Reluctant) (path : Path) (event : Event)

theorem log_view : (serve (.log event) h).2.view = h.view := by
  have hnote : (h.parent.note event).host.files = h.files ∧
      (h.parent.note event).host.directory = h.directory := by
    unfold Parent.note
    split <;> exact ⟨rfl, rfl⟩
  exact Prod.ext hnote.1 (Prod.ext hnote.2 rfl)

theorem present_view : (serve (.present path) h).2.view =
    (h.files, h.directory, h.upcoming.tail, h.upcoming.head?.join) := rfl

theorem remove_view {t : FileTree} {cwd : Place} {upcoming : List (Option Refusal)}
    {current : Option Refusal} {h : Reluctant} (hview : h.view = (t, cwd, upcoming, current)) :
    (serve (.remove path) h).2.view = (t.tried cwd path current, cwd, upcoming, current) := by
  obtain ⟨parent, _, refusal⟩ := h
  obtain ⟨rfl, rfl, rfl, rfl⟩ := hview
  cases refusal <;> rfl

end

theorem run_willing {α : Type} (routine : Check.Routine α) (p : Parent) :
    routine.run serve ⟨p, [], none⟩ =
      ((routine.run Parent.serve p).1, ⟨(routine.run Parent.serve p).2, [], none⟩) := by
  induction routine generalizing p with
  | done a => rfl
  | ask q next ih =>
    have hstep : serve q ⟨p, [], none⟩ =
        ((Parent.serve q p).1, ⟨(Parent.serve q p).2, [], none⟩) := by
      cases q <;> rfl
    have hrun (s : Reluctant) : (Script.ask q next).run serve s =
      (next (serve q s).1).run serve (serve q s).2 := rfl
    rw [hrun, hstep]
    exact ih _ _

end Reluctant

end IngestCheck.Host

namespace IngestCheck.Check

open Host (Refusal Reluctant Parent FileTree Place)

/-- What becomes of a tree if some paths are to be removed and some of them are. -/
structure Cleared (t t' : FileTree) (cwd : Place) (dirs : List Path) (removed : Path → Prop) :
    Prop where
  remnant : t'.Remnant t
  gone (dir : Path) : removed dir → ∀ place, t'.find true cwd dir ≠ .ok (place, .directory)
  spared (dir : Path) : dir ∈ dirs → ∀ follow place e, t.find follow cwd dir = .ok (place, e) →
    e ≠ .directory → (∀ target, e ≠ .link target) →
    (∀ other ∈ dirs, ∀ top, t.find false cwd other = .ok (top, .directory) → ¬ top <+: place) →
    t'.entry? place = some e
  frame (place : Place) : (∀ dir ∈ dirs, ¬ t.Covers cwd dir place) →
    t'.entry? place = t.entry? place

structure Turn (h h' : Reluctant) (dir : Path) : Prop where
  directory : h'.directory = h.directory
  upcoming : h'.upcoming = h.upcoming.tail
  attempt : h.files.Attempt h'.files h.directory dir
  gone (hnone : h.upcoming.head?.join = none) (place : Place) :
    h'.files.find true h.directory dir ≠ .ok (place, .directory)

section

variable {h h' : Reluctant} {dir : Path} {t : Transcript}

theorem turn_of_left (hfiles : h.files.IsTree) (hdir : Path.IsNormal dir)
    (hroot : dir ≠ [Path.slash]) {current : Option Refusal}
    (hview : h'.view = (h.files.tried h.directory dir h.upcoming.head?.join, h.directory,
      h.upcoming.tail, current)) :
    Turn h h' dir := by
  simp only [Reluctant.view, Prod.mk.injEq] at hview
  obtain ⟨hleft, hdirectory, hupcoming, -⟩ := hview
  refine ⟨hdirectory, hupcoming, ?_, fun hnone ↦ ?_⟩
  · rw [hleft]
    cases h.upcoming.head?.join with
    | none => exact (FileTree.removeAll_removal hfiles hdir hroot).toAttempt
    | some refusal => exact FileTree.attempt_giveUp hfiles _ _ _
  · rw [hleft, hnone]
    exact (FileTree.removeAll_removal hfiles hdir hroot).gone

theorem turn_of_tidied (hfiles : h.files.IsTree) (hdir : Path.IsNormal dir)
    (hroot : dir ≠ [Path.slash]) (ht : Tidied dir t) (hserved : Served Reluctant.serve h t h') :
    Turn h h' dir := by
  have hpresent := Reluctant.present_view h dir
  cases ht with
  | absent e =>
    obtain ⟨hleads, -, rfl⟩ := hserved
    have hview := (Reluctant.log_view _ e).trans hpresent
    simp only [Reluctant.view, Prod.mk.injEq] at hview
    obtain ⟨hsame, hdirectory, hupcoming, -⟩ := hview
    have hleads : h.files.leads h.directory dir = false := hleads
    refine ⟨hdirectory, hupcoming, ?_, fun _ place hfind ↦ ?_⟩
    · rw [hsame]
      exact .refl hfiles
    · rw [hsame] at hfind
      rw [FileTree.leads, hfind] at hleads
      exact absurd hleads nofun
  | removed e =>
    obtain ⟨-, -, -, rfl⟩ := hserved
    have hview := (Reluctant.log_view _ e).trans hpresent
    exact turn_of_left hfiles hdir hroot (Reluctant.remove_view dir hview)
  | refused e error noted =>
    obtain ⟨-, -, -, -, rfl⟩ := hserved
    have hview := (Reluctant.log_view _ e).trans hpresent
    have hremove := Reluctant.remove_view dir hview
    exact turn_of_left hfiles hdir hroot ((Reluctant.log_view _ noted).trans hremove)

end

section

variable {t t' : FileTree} {cwd : Place} {dirs : List Path} {removed : Path → Prop}

theorem cleared_of_frame (hremnant : t'.Remnant t)
    (hgone : ∀ dir, removed dir → ∀ place, t'.find true cwd dir ≠ .ok (place, .directory))
    (hframe : ∀ place, (∀ dir ∈ dirs, ¬ t.Covers cwd dir place) →
      t'.entry? place = t.entry? place) : Cleared t t' cwd dirs removed where
  remnant := hremnant
  gone := hgone
  spared dir _ follow place e hfind hdirectory hlink hbelow := by
    have hentry : t.entry? place = some e := (FileTree.find_eq_ok_iff.mp hfind).2.2
    rw [hframe place fun other hother hcovers ↦ ?_, hentry]
    cases hcovers with
    | @link _ target h =>
      have hother := (FileTree.find_eq_ok_iff.mp h).2.2
      exact hlink target (Option.some_inj.mp (hentry.symm.trans hother))
    | below h hle => exact hbelow other hother _ h hle
  frame := hframe

theorem Cleared.mono {removed' : Path → Prop} (h : Cleared t t' cwd dirs removed)
    (hremoved : ∀ dir, removed' dir → removed dir) : Cleared t t' cwd dirs removed' :=
  { h with gone := fun dir hdir ↦ h.gone dir (hremoved dir hdir) }

theorem Cleared.cons {t₁ : FileTree} {dir : Path} {first : Prop} (h : t.Attempt t₁ cwd dir)
    (hgone : first → ∀ place, t₁.find true cwd dir ≠ .ok (place, .directory))
    (hrest : Cleared t₁ t' cwd dirs removed) :
    Cleared t t' cwd (dir :: dirs) fun d ↦ d = dir ∧ first ∨ removed d := by
  refine cleared_of_frame (hrest.remnant.trans h.remnant) ?_ ?_
  · rintro d (⟨rfl, hfirst⟩ | hd) place hfind
    · exact hgone hfirst place (FileTree.find_of_remnant hrest.remnant hfind)
    · exact hrest.gone d hd place hfind
  · intro place hplace
    obtain ⟨hdir, hdirs⟩ := List.forall_mem_cons.mp hplace
    have hmoved : ∀ d ∈ dirs, ¬ t₁.Covers cwd d place := fun d hd hcovers ↦
      hdirs d hd (hcovers.of_remnant h.remnant)
    rw [hrest.frame place hmoved, h.frame place hdir]

end

theorem cleared_of_served {dirs : List Path} {ts : List Transcript} {h h' : Reluctant}
    (hts : List.Forall₂ Tidied dirs ts) (hserved : Served Reluctant.serve h ts.flatten h')
    (hfiles : h.files.IsTree) (hdirs : ∀ dir ∈ dirs, Path.IsNormal dir ∧ dir ≠ [Path.slash]) :
    Cleared h.files h'.files h.directory dirs fun dir ↦
      ∃ i : ℕ, dirs[i]? = some dir ∧ h.upcoming[i]?.join = none := by
  -- one turn after the other, each starting from what the ones before it left
  induction hts generalizing h with
  | nil =>
    obtain rfl : h' = h := hserved
    refine cleared_of_frame (.refl _) ?_ fun _ _ ↦ rfl
    rintro dir ⟨i, hi, -⟩
    exact absurd hi (by simp)
  | @cons dir t dirs ts ht hts ih =>
    rw [List.flatten_cons, served_append] at hserved
    obtain ⟨between, hfirst, hrest⟩ := hserved
    obtain ⟨hdir, hdirs⟩ := List.forall_mem_cons.mp hdirs
    have hturn := turn_of_tidied hfiles hdir.1 hdir.2 ht hfirst
    have hcleared := ih hrest hturn.attempt.isTree hdirs
    rw [hturn.directory, hturn.upcoming] at hcleared
    refine (hcleared.cons hturn.attempt hturn.gone).mono fun d hd ↦ ?_
    obtain ⟨i, hi, hnone⟩ := hd
    cases i with
    | zero =>
      rw [List.getElem?_cons_zero, Option.some_inj] at hi
      rw [← List.head?_eq_getElem?] at hnone
      exact .inl ⟨hi.symm, hnone⟩
    | succ i =>
      rw [List.getElem?_cons_succ] at hi
      refine .inr ⟨i, hi, ?_⟩
      rwa [List.getElem?_tail]

structure Tends (dirs : List Path) (p p' : Parent) : Prop where
  cleared : Cleared p.host.files p'.host.files p.host.directory dirs (· ∈ dirs)
  despite (refusals : List (Option Refusal)) : Cleared p.host.files
    ((tidyAll dirs).run Reluctant.serve ⟨p, refusals, none⟩).2.files p.host.directory dirs
      fun dir ↦ ∃ i : ℕ, dirs[i]? = some dir ∧ refusals[i]?.join = none
  attempted {σ : Type} (answer : (q : Request) → StateM σ q.Reply) (s : σ) :
    ∃ ts, List.Forall₂ Tidied dirs ts ∧ Served answer s ts.flatten ((tidyAll dirs).run answer s).2

section

variable {dirs : List Path} {p : Parent}

theorem tidyAll_attempts {σ : Type} (dirs : List Path) (answer : (q : Request) → StateM σ q.Reply)
    (s : σ) : ∃ ts, List.Forall₂ Tidied dirs ts ∧
      Served answer s ts.flatten ((tidyAll dirs).run answer s).2 := by
  obtain ⟨_, ⟨ts, rfl, hts⟩, hserved⟩ := (tidyAll_ensures dirs).served answer s
  exact ⟨ts, hts, hserved⟩

theorem tidyAll_clears (hdirs : ∀ dir ∈ dirs, Path.IsNormal dir ∧ dir ≠ [Path.slash])
    (hfiles : p.host.files.IsTree) (refusals : List (Option Refusal)) : Cleared p.host.files
      ((tidyAll dirs).run Reluctant.serve ⟨p, refusals, none⟩).2.files p.host.directory dirs
        fun dir ↦ ∃ i : ℕ, dirs[i]? = some dir ∧ refusals[i]?.join = none := by
  obtain ⟨ts, hts, hserved⟩ := tidyAll_attempts dirs Reluctant.serve ⟨p, refusals, none⟩
  exact cleared_of_served hts hserved hfiles hdirs

theorem tidyAll_tends (hdirs : ∀ dir ∈ dirs, Path.IsNormal dir ∧ dir ≠ [Path.slash])
    (hfiles : p.host.files.IsTree) : Tends dirs p ((tidyAll dirs).run Parent.serve p).2 where
  cleared := by
    have hclears := tidyAll_clears hdirs hfiles []
    rw [Reluctant.run_willing] at hclears
    refine hclears.mono fun dir hdir ↦ ?_
    obtain ⟨i, hi⟩ := List.mem_iff_getElem?.mp hdir
    exact ⟨i, hi, rfl⟩
  despite := tidyAll_clears hdirs hfiles
  attempted := tidyAll_attempts dirs

/-- Whatever was done before, a guard takes its directories away, and no refusal of one of them
keeps it from the others. -/
theorem guarded_tends {α : Type} (body : Routine α)
    (hdirs : ∀ dir ∈ dirs, Path.IsNormal dir ∧ dir ≠ [Path.slash])
    (hfiles : ((noted dirs body).run Parent.serve p).2.host.files.IsTree) :
    Tends dirs ((noted dirs body).run Parent.serve p).2
      ((guarded dirs body).run Parent.serve p).2 := by
  have hend : ((guarded dirs body).run Parent.serve p).2 =
      ((tidyAll dirs).run Parent.serve ((noted dirs body).run Parent.serve p).2).2 := by
    rw [guarded_eq, Script.run_bind, Script.run_bind]
    rfl
  rw [hend]
  exact tidyAll_tends hdirs hfiles

end

def scratchHost : Parent where
  host := { files := { entries := [
    (["out"], .directory),
    (["out", "a"], .directory),
    (["out", "a", "f"], .file 0o644 []),
    (["out", "b"], .link "/kept"),
    (["kept"], .directory),
    (["kept", "f"], .file 0o644 []),
    (["round"], .link "out/a/../.."),
    (["alias"], .link "/kept"),
    (["file"], .file 0o644 [])] } }

/-- The first path reaches its directory by a link that leads through the directory itself. -/
def scratchPaths : List Path :=
  ["/round/out", "/out/a", "/out", "/missing", "/alias", "/file", "/alias"]

theorem guarded_tends_scratch : scratchHost.host.files.IsTree ∧
    (∀ dir ∈ scratchPaths, Path.IsNormal dir ∧ dir ≠ [Path.slash]) ∧
    scratchHost.host.files.find true [] ("/alias" : Path) = .ok (["kept"], .directory) ∧
    let left := ((guarded scratchPaths (.done ())).run Parent.serve scratchHost).2
    Tends scratchPaths ((noted scratchPaths (.done ())).run Parent.serve scratchHost).2 left ∧
      (∀ place, left.host.files.find true [] ("/alias" : Path) ≠ .ok (place, .directory)) ∧
      left.host.files.entry? ["kept", "f"] = some (.file 0o644 []) := by
  have htree : scratchHost.host.files.IsTree := FileTree.isTree_of_entries (by decide)
  have hnormal : ∀ dir ∈ scratchPaths, Path.IsNormal dir ∧ dir ≠ [Path.slash] := by decide
  have htends := guarded_tends (.done ()) hnormal (p := scratchHost) htree
  have huncovered : ∀ dir ∈ scratchPaths, ¬ scratchHost.host.files.Covers [] dir ["kept", "f"] :=
    of_decide_eq_true (by cbv)
  refine ⟨htree, hnormal, by cbv, htends, htends.cleared.gone _ (by decide), ?_⟩
  exact htends.cleared.frame ["kept", "f"] huncovered

end IngestCheck.Check
