import IngestCheck.Proofs.Credential.Displays
import IngestCheck.Proofs.Path.Normalisation
import IngestCheck.Proofs.Settings.Confinement
import IngestCheck.Proofs.Text.Encoding

namespace IngestCheck

open IngestCheck.Path (IsName)

namespace Settings

def overrides (settings : Settings) : Overrides where
  scriptDirectory := some settings.scriptDirectory
  ingestProgram := some settings.ingestProgram

/-- The surroundings that tell what settings say, and of the old host only its credential. -/
structure Retold (settings : Settings) (s s' : Surroundings) : Prop where
  outputRoot : s'.value? outputRootVariable = some settings.outputRoot
  maxProcesses : s'.value? maxProcessesVariable = some settings.maxProcesses
  pythonPath : s'.value? pythonPathVariable = some settings.pythonPath
  credential :
    s'.value? settings.case.credentialVariable = s.value? settings.case.credentialVariable

/-- The old variables with what settings say over them, on a host that knows no directory. -/
def retell (settings : Settings) (s : Surroundings) : Surroundings where
  value? name :=
    if name = outputRootVariable then some settings.outputRoot
    else if name = maxProcessesVariable then some settings.maxProcesses
    else if name = pythonPathVariable then some settings.pythonPath
    else s.value? name
  processors := 0
  executableDirectory := .error .noEntry
  currentDirectory := .error .noEntry

section

variable {case : Case} {s s' : Surroundings} {o : Overrides} {settings : Settings}

theorem retold_retell (h : settings.case.credentialVariable ∉ ownVariables) (s : Surroundings) :
    settings.Retold s (settings.retell s) := by
  simp only [ownVariables, List.mem_cons, List.not_mem_nil, or_false, not_or] at h
  obtain ⟨houtput, hmax, hpython⟩ := h
  refine ⟨rfl, rfl, rfl, ?_⟩
  simp [retell, houtput, hmax, hpython]

theorem getD_nonEmpty?_ne_nil {name : String} {default : Bytes} (hdefault : default ≠ []) :
    (s.nonEmpty? name).getD default ≠ [] := by
  cases h : s.nonEmpty? name with
  | none => exact hdefault
  | some value => exact (Surroundings.nonEmpty?_eq_some_iff.mp h).2

theorem case_of_resolve (h : resolve case s o = .ok settings) : settings.case = case := by
  obtain ⟨_, -, _, -, _, -, _, -, rfl⟩ := resolve_eq_ok_iff.mp h
  rfl

theorem maxProcesses_ne_nil (h : resolve case s o = .ok settings) : settings.maxProcesses ≠ [] := by
  obtain ⟨_, -, _, -, _, -, _, -, rfl⟩ := resolve_eq_ok_iff.mp h
  refine getD_nonEmpty?_ne_nil fun hempty ↦ ?_
  have hdigits := congrArg String.toList (Bytes.ofString_eq_nil_iff.mp hempty)
  exact Nat.toDigits_ne_nil (Nat.toList_repr.symm.trans hdigits)

theorem pythonPath_ne_nil (h : resolve case s o = .ok settings) : settings.pythonPath ≠ [] := by
  obtain ⟨_, -, _, -, _, -, _, -, rfl⟩ := resolve_eq_ok_iff.mp h
  exact getD_nonEmpty?_ne_nil (by decide)

theorem absolute_assemble {ns : List Bytes} (hns : ∀ n ∈ ns, IsName n) :
    s.absolute (Path.assemble true ns) = .ok (Path.assemble true ns) := by
  have habsolute : Path.isAbsolute (Path.assemble true ns) = true := rfl
  rw [Surroundings.absolute, if_pos habsolute, Path.normal_eq_assemble habsolute,
    Path.names_assemble hns]

theorem resolve_overrides (hs : s.Placed) (h : resolve case s o = .ok settings)
    (hs' : settings.Retold s s') : resolve case s' settings.overrides = .ok settings := by
  obtain ⟨parents, name, output, located⟩ := located_of_resolve hs h
  have hmax := Surroundings.nonEmpty?_eq_some_iff.mpr ⟨hs'.maxProcesses, maxProcesses_ne_nil h⟩
  have hpython := Surroundings.nonEmpty?_eq_some_iff.mpr ⟨hs'.pythonPath, pythonPath_ne_nil h⟩
  have hscripts : s'.absolute settings.scriptDirectory = .ok settings.scriptDirectory := by
    rw [located.scriptDirectory, absolute_assemble located.isName]
  have hroot : rootOf settings.scriptDirectory = .ok settings.repositoryRoot := by
    rw [rootOf, located.scriptDirectory, Path.parent?_assemble located.isName,
      located.repositoryRoot]
    simp
  have houtput : outputRootOf s' settings.scriptDirectory = .ok settings.outputRoot := by
    have hne : settings.outputRoot ≠ [] := by
      rw [located.outputRoot]
      exact List.cons_ne_nil _ _
    rw [outputRootOf, Surroundings.nonEmpty?_eq_some_iff.mpr ⟨hs'.outputRoot, hne⟩,
      located.outputRoot]
    exact absolute_assemble located.output_isName
  refine resolve_eq_ok_iff.mpr ⟨_, rfl, _, hscripts, _, hroot, _, houtput, ?_⟩
  -- what is left are the values that come from variables and from the command line
  have hcredential := hs'.credential
  obtain ⟨_, -, _, -, _, -, _, -, rfl⟩ := resolve_eq_ok_iff.mp h
  have hkey : s'.nonEmpty? case.credentialVariable = s.nonEmpty? case.credentialVariable :=
    congrArg (Option.filter _) hcredential
  rw [assemble, hmax, hpython, hkey]
  rfl

/-- Settings are what they themselves resolve to. They can be retold, and whoever retells them gets
them back, whatever else there is or is not to be found out. -/
theorem resolve_fixed (hcase : case.credentialVariable ∉ ownVariables) (hs : s.Placed)
    (h : resolve case s o = .ok settings) : settings.Retold s (settings.retell s) ∧
      ∀ s', settings.Retold s s' → resolve case s' settings.overrides = .ok settings := by
  have hcredential : settings.case.credentialVariable ∉ ownVariables := by
    rwa [case_of_resolve h]
  exact ⟨retold_retell hcredential s, fun s' hs' ↦ resolve_overrides hs h hs'⟩

end

/-- A host that counts no processors, with a key and a root of the output to be folded. -/
def keyedSurroundings : Surroundings where
  value? name :=
    if name = outputRootVariable then some (Bytes.ofString "../out/./x//")
    else if name = "OCTOAI_API_KEY" then some (Bytes.ofString "key")
    else none
  processors := 0
  executableDirectory := .error .noEntry
  currentDirectory := .ok "/repo/e2e"

theorem resolve_fixed_keyed :
    let s := keyedSurroundings
    Case.octoai.credentialVariable ∉ ownVariables ∧ s.Placed ∧
    ∃ settings, resolve .octoai s { scriptDirectory := some "a/../scripts" } = .ok settings ∧
      settings.maxProcesses = Bytes.ofString "1" ∧ settings.apiKey? = some (Bytes.ofString "key") ∧
      resolve .octoai (settings.retell s) settings.overrides = .ok settings := by
  intro s
  have hcase : Case.octoai.credentialVariable ∉ ownVariables := by decide
  have hs : s.Placed := by
    intro dir hdir
    obtain rfl := Except.ok.inj hdir
    decide
  have hresolve : resolve .octoai s { scriptDirectory := some "a/../scripts" } =
      .ok (assemble .octoai s { scriptDirectory := some "a/../scripts" }
        "/repo/e2e/scripts" "/repo/e2e" "/repo/out/x") :=
    resolve_eq_ok_iff.mpr ⟨_, rfl, _, by decide, _, by decide, _, by decide, rfl⟩
  obtain ⟨hretold, hfixed⟩ := resolve_fixed hcase hs hresolve
  exact ⟨hcase, hs, _, hresolve, by decide, by decide, hfixed _ hretold⟩

end Settings

end IngestCheck
