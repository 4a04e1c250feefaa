import IngestCheck.Proofs.Path.Normalisation
import IngestCheck.Proofs.Settings.Confinement

namespace IngestCheck

open IngestCheck.Path (Walk)

section

variable {s : Surroundings} {p : Path}

theorem Surroundings.exists_anchors (hs : s.Placed) {q : Path} (h : s.absolute p = .ok q) :
    ∃ full, s.Anchors p full ∧ q = Path.normal full := by
  have hanchors : ∃ full, s.Anchors p full := by
    cases habsolute : Path.isAbsolute p with
    | true => exact ⟨p, .alone habsolute⟩
    | false =>
      rw [absolute, if_neg (by simp [habsolute])] at h
      cases hdir : s.currentDirectory with
      | error e => simp [hdir] at h
      | ok dir => exact ⟨_, .continued habsolute hdir (hs dir hdir)⟩
  obtain ⟨full, hfull⟩ := hanchors
  refine ⟨full, hfull, ?_⟩
  exact Except.ok.inj (h.symm.trans (Path.absolute_of_anchors hfull))

theorem Surroundings.absolute_eq_error_iff {e : CheckError} : s.absolute p = .error e ↔
    Path.isAbsolute p = false ∧ ∃ cause, s.currentDirectory = .error cause ∧
      e = .configuration s!"cannot read the current directory: {cause.message}" := by
  cases habsolute : Path.isAbsolute p with
  | true => simp [absolute, habsolute]
  | false => cases hdir : s.currentDirectory <;> simp [absolute, habsolute, hdir, eq_comm]

end

namespace Settings

inductive Obstacle
  | unlocated
  | scriptsAdrift
  | scriptsAtRoot
  | outputAdrift
  deriving DecidableEq

def Obstacle.rank : Obstacle → ℕ
  | .unlocated => 0
  | .scriptsAdrift => 1
  | .scriptsAtRoot => 2
  | .outputAdrift => 3

inductive Chosen (s : Surroundings) (o : Overrides) : Path → Prop
  | override {dir : Path} (h : o.scriptDirectory = some dir) : Chosen s o dir
  | executable {dir : Path} (hnone : o.scriptDirectory = none)
    (h : s.executableDirectory = .ok dir) : Chosen s o dir

def RelativeOutput (s : Surroundings) : Prop :=
  ∃ root, s.value? outputRootVariable = some root ∧ root ≠ [] ∧ Path.isAbsolute root = false

/-- An obstacle that is there, with what is said about it. -/
inductive Stands (s : Surroundings) (o : Overrides) : Obstacle → String → Prop
  | unlocated {cause : HostError} (hnone : o.scriptDirectory = none)
    (hcause : s.executableDirectory = .error cause) :
    Stands s o .unlocated s!"cannot locate the harness directory: {cause.message}"
  | scriptsAdrift {dir : Path} {cause : HostError} (hdir : Chosen s o dir)
    (hrelative : Path.isAbsolute dir = false) (hcause : s.currentDirectory = .error cause) :
    Stands s o .scriptsAdrift s!"cannot read the current directory: {cause.message}"
  | scriptsAtRoot {dir full : Path} (hdir : Chosen s o dir) (hfull : s.Anchors dir full)
    (hroot : Walk [] (full.splitOn Path.slash) []) :
    Stands s o .scriptsAtRoot "harness directory / has no parent directory"
  | outputAdrift {cause : HostError} (houtput : RelativeOutput s)
    (hcause : s.currentDirectory = .error cause) :
    Stands s o .outputAdrift s!"cannot read the current directory: {cause.message}"

def Clear (s : Surroundings) (o : Overrides) (rank : ℕ) : Prop :=
  ∀ obstacle text, obstacle.rank < rank → ¬ Stands s o obstacle text

def First (s : Surroundings) (o : Overrides) (obstacle : Obstacle) (text : String) : Prop :=
  Stands s o obstacle text ∧ Clear s o obstacle.rank

/-- A step that fails just if an obstacle stands, and says so. -/
structure Notices (s : Surroundings) (o : Overrides) (obstacle : Obstacle) {α : Type}
    (step : Except CheckError α) : Prop where
  clear (a : α) (text : String) : step = .ok a → ¬ Stands s o obstacle text
  stuck (e : CheckError) : step = .error e →
    ∃ text, Stands s o obstacle text ∧ e = .configuration text

section

variable {case : Case} {s : Surroundings} {o : Overrides} {dir dir' scripts : Path}
  {obstacle obstacle' : Obstacle} {text text' : String} {e : CheckError}

theorem Chosen.unique (h : Chosen s o dir) (h' : Chosen s o dir') : dir = dir' := by
  cases h with
  | override h =>
    cases h' with
    | override h' => exact Option.some.inj (h.symm.trans h')
    | executable hnone => simp [hnone] at h
  | executable hnone h =>
    cases h' with
    | override h' => simp [hnone] at h'
    | executable _ h' => exact Except.ok.inj (h.symm.trans h')

theorem Stands.text_unique (h : Stands s o obstacle text) (h' : Stands s o obstacle text') :
    text = text' := by
  cases h with
  | unlocated _ hcause =>
    cases h' with
    | unlocated _ hcause' => rw [Except.error.inj (hcause.symm.trans hcause')]
  | scriptsAdrift _ _ hcause =>
    cases h' with
    | scriptsAdrift _ _ hcause' => rw [Except.error.inj (hcause.symm.trans hcause')]
  | scriptsAtRoot =>
    cases h' with
    | scriptsAtRoot => rfl
  | outputAdrift _ hcause =>
    cases h' with
    | outputAdrift _ hcause' => rw [Except.error.inj (hcause.symm.trans hcause')]

theorem chosenDirectory_eq_ok_iff : chosenDirectory s o = .ok dir ↔ Chosen s o dir := by
  constructor
  · intro h
    unfold chosenDirectory at h
    split at h
    · rename_i given hgiven
      exact .override (hgiven.trans (congrArg some (Except.ok.inj h)))
    · rename_i hnone
      split at h
      · rename_i found hfound
        obtain rfl := Except.ok.inj h
        exact .executable hnone hfound
      · cases h
  · rintro (h | ⟨hnone, h⟩)
    · simp [chosenDirectory, h]
    · simp [chosenDirectory, hnone, h]

theorem Obstacle.rank_injective : Function.Injective Obstacle.rank := by
  intro obstacle obstacle' h
  cases obstacle <;> cases obstacle' <;> first | rfl | cases h

theorem Obstacle.rank_lt (obstacle : Obstacle) : obstacle.rank < 4 := by
  cases obstacle <;> decide

theorem clear_zero : Clear s o 0 := fun _ _ h ↦ absurd h (Nat.not_lt_zero _)

section

variable {α : Type} {step : Except CheckError α}

theorem Notices.passed (h : Notices s o obstacle step) (hclear : Clear s o obstacle.rank) {a : α}
    (hok : step = .ok a) : Clear s o (obstacle.rank + 1) := by
  intro earlier text hrank
  rcases Nat.lt_succ_iff_lt_or_eq.mp hrank with hlt | heq
  · exact hclear earlier text hlt
  · obtain rfl := Obstacle.rank_injective heq
    exact h.clear a text hok

theorem Notices.first (h : Notices s o obstacle step) (hclear : Clear s o obstacle.rank)
    (herror : step = .error e) :
    ∃ obstacle text, First s o obstacle text ∧ e = .configuration text := by
  obtain ⟨text, hstands, he⟩ := h.stuck e herror
  exact ⟨obstacle, text, ⟨hstands, hclear⟩, he⟩

end

theorem chosenDirectory_notices : Notices s o .unlocated (chosenDirectory s o) where
  clear dir text hok := by
    rintro ⟨hnone, hcause⟩
    cases chosenDirectory_eq_ok_iff.mp hok with
    | override h => simp [hnone] at h
    | executable _ h => simp [hcause] at h
  stuck e herror := by
    unfold chosenDirectory at herror
    split at herror
    · cases herror
    · rename_i hnone
      split at herror
      · cases herror
      · rename_i cause hcause
        exact ⟨_, .unlocated hnone hcause, (Except.error.inj herror).symm⟩

theorem absolute_notices (hdir : Chosen s o dir) :
    Notices s o .scriptsAdrift (s.absolute dir) where
  clear scripts text hok := by
    rintro (_ | ⟨hdir', hrelative, hcause⟩)
    obtain rfl := hdir.unique hdir'
    have herror := Surroundings.absolute_eq_error_iff.mpr ⟨hrelative, _, hcause, rfl⟩
    simp [hok] at herror
  stuck e herror := by
    obtain ⟨hrelative, cause, hcause, rfl⟩ := Surroundings.absolute_eq_error_iff.mp herror
    exact ⟨_, .scriptsAdrift hdir hrelative hcause, rfl⟩

theorem rootOf_normal {full : Path} (hfull : Path.isAbsolute full = true) :
    rootOf (Path.normal full) =
      if (Path.names full).isEmpty then
        .error (.configuration "harness directory / has no parent directory")
      else .ok (Path.assemble true (Path.names full).dropLast) := by
  rw [Path.normal_eq_assemble hfull, rootOf, Path.parent?_assemble (Path.names_isName full)]
  cases hnames : Path.names full with
  | nil => decide
  | cons => rfl

theorem rootOf_notices (hs : s.Placed) (hdir : Chosen s o dir)
    (hscripts : s.absolute dir = .ok scripts) : Notices s o .scriptsAtRoot (rootOf scripts) := by
  obtain ⟨full, hfull, rfl⟩ := s.exists_anchors hs hscripts
  have hroot := rootOf_normal (Path.isAbsolute_of_anchors hfull)
  refine ⟨fun root text hok ↦ ?_, fun e herror ↦ ?_⟩
  · rintro (_ | _ | ⟨hdir', hfull', hwalk⟩)
    obtain rfl := hdir.unique hdir'
    obtain rfl := Path.anchors_unique hfull hfull'
    rw [hroot, Path.walk_nil_iff.mp hwalk] at hok
    cases hok
  · rw [hroot] at herror
    split at herror
    · rename_i hempty
      have hwalk := Path.walk_nil_iff.mpr (List.isEmpty_iff.mp hempty)
      exact ⟨_, .scriptsAtRoot hdir hfull hwalk, (Except.error.inj herror).symm⟩
    · cases herror

theorem outputRootOf_notices (scripts : Path) :
    Notices s o .outputAdrift (outputRootOf s scripts) where
  clear output text hok := by
    rintro (_ | _ | _ | ⟨⟨root, hvalue, hne, hrelative⟩, hcause⟩)
    have herror := Surroundings.absolute_eq_error_iff.mpr ⟨hrelative, _, hcause, rfl⟩
    rw [outputRootOf, Surroundings.nonEmpty?_eq_some_iff.mpr ⟨hvalue, hne⟩] at hok
    simp [hok] at herror
  stuck e herror := by
    unfold outputRootOf at herror
    split at herror
    · rename_i root hroot
      obtain ⟨hvalue, hne⟩ := Surroundings.nonEmpty?_eq_some_iff.mp hroot
      obtain ⟨hrelative, cause, hcause, rfl⟩ := Surroundings.absolute_eq_error_iff.mp herror
      exact ⟨_, .outputAdrift ⟨root, hvalue, hne, hrelative⟩ hcause, rfl⟩
    · cases herror

theorem clear_of_resolve (hs : s.Placed) {settings : Settings}
    (h : resolve case s o = .ok settings) : Clear s o 4 := by
  obtain ⟨dir, hdir, scripts, hscripts, root, hroot, output, houtput, -⟩ := resolve_eq_ok_iff.mp h
  have hchosen := chosenDirectory_eq_ok_iff.mp hdir
  have hlocated := chosenDirectory_notices.passed clear_zero hdir
  have habsolute := (absolute_notices hchosen).passed hlocated hscripts
  have hbelow := (rootOf_notices hs hchosen hscripts).passed habsolute hroot
  exact (outputRootOf_notices scripts).passed hbelow houtput

theorem first_of_resolve (hs : s.Placed) (h : resolve case s o = .error e) :
    ∃ obstacle text, First s o obstacle text ∧ e = .configuration text := by
  simp only [resolve, bind_eq_error_iff] at h
  obtain h | ⟨dir, hdir, h⟩ := h
  · exact chosenDirectory_notices.first clear_zero h
  have hchosen := chosenDirectory_eq_ok_iff.mp hdir
  have hlocated := chosenDirectory_notices.passed clear_zero hdir
  obtain h | ⟨scripts, hscripts, h⟩ := h
  · exact (absolute_notices hchosen).first hlocated h
  have habsolute := (absolute_notices hchosen).passed hlocated hscripts
  obtain h | ⟨root, hroot, h⟩ := h
  · exact (rootOf_notices hs hchosen hscripts).first habsolute h
  have hbelow := (rootOf_notices hs hchosen hscripts).passed habsolute hroot
  obtain h | ⟨output, -, h⟩ := h
  · exact (outputRootOf_notices scripts).first hbelow h
  · cases h

theorem First.unique (h : First s o obstacle text) (h' : First s o obstacle' text') :
    obstacle = obstacle' ∧ text = text' := by
  have hobstacle : obstacle = obstacle' := by
    rcases Nat.lt_trichotomy obstacle.rank obstacle'.rank with hlt | heq | hgt
    · exact absurd h.1 (h'.2 _ _ hlt)
    · exact Obstacle.rank_injective heq
    · exact absurd h'.1 (h.2 _ _ hgt)
  subst hobstacle
  exact ⟨rfl, h.1.text_unique h'.1⟩

theorem resolve_eq_error_iff (hs : s.Placed) : resolve case s o = .error e ↔
    ∃ obstacle text, First s o obstacle text ∧ e = .configuration text := by
  refine ⟨first_of_resolve hs, ?_⟩
  rintro ⟨obstacle, text, hfirst, rfl⟩
  cases hresolve : resolve case s o with
  | error e =>
    obtain ⟨obstacle', text', hfirst', rfl⟩ := first_of_resolve hs hresolve
    rw [(hfirst.unique hfirst').2]
  | ok settings => exact absurd hfirst.1 (clear_of_resolve hs hresolve _ _ obstacle.rank_lt)

def whereabouts (s : Surroundings) (o : Overrides) : Except CheckError (Path × Path × Path) := do
  let scripts ← s.absolute (← chosenDirectory s o)
  let root ← rootOf scripts
  let output ← outputRootOf s scripts
  return (scripts, root, output)

theorem resolve_eq_map (case : Case) (s : Surroundings) (o : Overrides) : resolve case s o =
    (fun w : Path × Path × Path ↦ assemble case s o w.1 w.2.1 w.2.2) <$> whereabouts s o := by
  simp only [resolve, whereabouts, map_bind, map_pure]

theorem resolve_eq_error_iff_whereabouts :
    resolve case s o = .error e ↔ whereabouts s o = .error e := by
  rw [resolve_eq_map]
  cases whereabouts s o <;> simp [Functor.map, Except.map]

theorem whereabouts_congr {s' : Surroundings}
    (hexecutable : s'.executableDirectory = s.executableDirectory)
    (hcurrent : s'.currentDirectory = s.currentDirectory)
    (hroot : s'.value? outputRootVariable = s.value? outputRootVariable) :
    whereabouts s' o = whereabouts s o := by
  have hchosen : chosenDirectory s' o = chosenDirectory s o := by
    rw [chosenDirectory, chosenDirectory, hexecutable]
  have habsolute (p : Path) : s'.absolute p = s.absolute p := by
    rw [Surroundings.absolute, Surroundings.absolute, hcurrent]
  have houtput (scripts : Path) : outputRootOf s' scripts = outputRootOf s scripts := by
    simp only [outputRootOf, Surroundings.nonEmpty?, hroot, habsolute]
  simp only [whereabouts, hchosen, habsolute, houtput]

/-- The current directory has to be known: for the scripts, or, if they can be placed without it
and below the root, for the output. -/
def ReadsCurrent (s : Surroundings) (o : Overrides) : Prop :=
  ∃ dir, Chosen s o dir ∧ (Path.isAbsolute dir = false ∨
    ¬ Walk [] (dir.splitOn Path.slash) [] ∧ RelativeOutput s)

theorem outputRootOf_congr {s' : Surroundings} (hvalue : s'.value? = s.value?)
    (h : ¬ RelativeOutput s) (scripts : Path) :
    outputRootOf s' scripts = outputRootOf s scripts := by
  have hnonEmpty : s'.nonEmpty? outputRootVariable = s.nonEmpty? outputRootVariable := by
    rw [Surroundings.nonEmpty?, hvalue, Surroundings.nonEmpty?]
  rw [outputRootOf, outputRootOf, hnonEmpty]
  cases hroot : s.nonEmpty? outputRootVariable with
  | none => rfl
  | some root =>
    obtain ⟨hset, hne⟩ := Surroundings.nonEmpty?_eq_some_iff.mp hroot
    have habsolute : Path.isAbsolute root = true := by
      by_contra hrelative
      exact h ⟨root, hset, hne, by simpa using hrelative⟩
    simp only [Surroundings.absolute, habsolute, if_true]

theorem resolve_current_unread (h : ¬ ReadsCurrent s o) (found : Except HostError Path) :
    resolve case { s with currentDirectory := found } o = resolve case s o := by
  have hchosen : chosenDirectory { s with currentDirectory := found } o = chosenDirectory s o := rfl
  rw [resolve, resolve, hchosen]
  cases hdir : chosenDirectory s o with
  | error e => rfl
  | ok dir =>
    have hdir' := chosenDirectory_eq_ok_iff.mp hdir
    have habsolute : Path.isAbsolute dir = true := by
      by_contra hrelative
      exact h ⟨dir, hdir', .inl (by simpa using hrelative)⟩
    have hscripts (s : Surroundings) : s.absolute dir = .ok (Path.normal dir) := if_pos habsolute
    by_cases hroot : Walk [] (dir.splitOn Path.slash) []
    · -- the root has no directory around it, and the output is not looked for
      have hnone := rootOf_normal habsolute
      rw [Path.walk_nil_iff.mp hroot] at hnone
      simp [bind, Except.bind, hscripts, hnone]
    · have hknown : ¬ RelativeOutput s := fun hrelative ↦ h ⟨dir, hdir', .inr ⟨hroot, hrelative⟩⟩
      have houtput (scripts : Path) :
          outputRootOf { s with currentDirectory := found } scripts = outputRootOf s scripts := by
        apply outputRootOf_congr _ hknown
        rfl
      simp only [bind, Except.bind, hscripts, houtput]
      rfl

theorem resolve_executable_unread (h : o.scriptDirectory ≠ none) (found : Except HostError Path) :
    resolve case { s with executableDirectory := found } o = resolve case s o := by
  obtain ⟨dir, hdir⟩ := Option.ne_none_iff_exists'.mp h
  have hchosen (s : Surroundings) : chosenDirectory s o = .ok dir := by rw [chosenDirectory, hdir]
  rw [resolve, resolve, hchosen, hchosen]
  rfl

end

/-- How settings fail to be worked out. -/
structure Obstructed (case : Case) (s : Surroundings) (o : Overrides) : Prop where
  fails_iff : (∃ e, resolve case s o = .error e) ↔ ∃ obstacle text, Stands s o obstacle text
  error_iff (e : CheckError) : resolve case s o = .error e ↔
    ∃ obstacle text, First s o obstacle text ∧ e = .configuration text
  exitCode_eq (e : CheckError) : resolve case s o = .error e → e.exitCode = 2
  executable_unread (found : Except HostError Path) : o.scriptDirectory ≠ none →
    resolve case { s with executableDirectory := found } o = resolve case s o
  current_unread (found : Except HostError Path) : ¬ ReadsCurrent s o →
    resolve case { s with currentDirectory := found } o = resolve case s o
  others_unread (case' : Case) (s' : Surroundings) :
    s'.executableDirectory = s.executableDirectory → s'.currentDirectory = s.currentDirectory →
    s'.value? outputRootVariable = s.value? outputRootVariable →
    ∀ e, resolve case' s' o = .error e ↔ resolve case s o = .error e

/-- Settings can be worked out unless one of four obstacles stands. The first of them is reported,
as a mistake in the configuration, and nothing else about the host is of any account. -/
theorem resolve_obstructed (case : Case) {s : Surroundings} (hs : s.Placed) (o : Overrides) :
    Obstructed case s o where
  fails_iff := by
    constructor
    · rintro ⟨e, he⟩
      obtain ⟨obstacle, text, hfirst, -⟩ := first_of_resolve hs he
      exact ⟨obstacle, text, hfirst.1⟩
    · rintro ⟨obstacle, text, hstands⟩
      cases hresolve : resolve case s o with
      | error e => exact ⟨e, rfl⟩
      | ok settings => exact absurd hstands (clear_of_resolve hs hresolve _ _ obstacle.rank_lt)
  error_iff e := resolve_eq_error_iff hs
  exitCode_eq e he := by
    obtain ⟨obstacle, text, -, rfl⟩ := first_of_resolve hs he
    rfl
  executable_unread found h := resolve_executable_unread h found
  current_unread found h := resolve_current_unread h found
  others_unread case' s' hexecutable hcurrent hroot e := by
    rw [resolve_eq_error_iff_whereabouts, resolve_eq_error_iff_whereabouts,
      whereabouts_congr hexecutable hcurrent hroot]

/-- A host that knows no directory, with a root of the output that needs one. -/
def lostSurroundings : Surroundings where
  value? name := if name = outputRootVariable then some (Bytes.ofString "out") else none
  processors := 1
  executableDirectory := .error .noEntry
  currentDirectory := .error .noEntry

theorem resolve_obstructed_lost :
    (lostSurroundings.Placed ∧ Obstructed .octoai lostSurroundings {} ∧
      (∃ text, Stands lostSurroundings {} .outputAdrift text) ∧
      resolve .octoai lostSurroundings {} = .error (.configuration
        s!"cannot locate the harness directory: {HostError.noEntry.message}")) ∧
    ((rootedAt "out").Placed ∧
      resolve .octoai (rootedAt "out") { scriptDirectory := some "../x/.././../" } =
        .error (.configuration "harness directory / has no parent directory")) := by
  have hlost : lostSurroundings.Placed := by
    intro dir hdir
    cases hdir
  have hrooted : (rootedAt "out").Placed := by
    intro dir hdir
    obtain rfl := Except.ok.inj hdir
    decide
  have hobstructed := resolve_obstructed .octoai hlost {}
  refine ⟨⟨hlost, hobstructed, ?_, ?_⟩, hrooted, ?_⟩
  · exact ⟨_, .outputAdrift ⟨_, rfl, by decide, by decide⟩ rfl⟩
  · exact (hobstructed.error_iff _).mpr ⟨_, _, ⟨.unlocated rfl rfl, clear_zero⟩, rfl⟩
  · have hwalk : Walk [] (List.splitOn Path.slash
        (Bytes.ofString "/repo/e2e" ++ Path.slash :: Bytes.ofString "../x/.././../")) [] :=
      Path.walk_nil_iff.mpr (by decide)
    have hstands := Stands.scriptsAtRoot (s := rootedAt "out")
      (o := { scriptDirectory := some "../x/.././../" }) (.override rfl)
      (.continued (by decide) rfl (by decide)) hwalk
    refine ((resolve_obstructed .octoai hrooted _).error_iff _).mpr
      ⟨_, _, ⟨hstands, fun earlier text hrank hearlier ↦ ?_⟩, rfl⟩
    cases hearlier with
    | unlocated hnone => cases hnone
    | scriptsAdrift _ _ hcause => cases hcause
    | scriptsAtRoot | outputAdrift => simp [Obstacle.rank] at hrank

end Settings

end IngestCheck
