import IngestCheck.Proofs.Check.Tidying
import IngestCheck.Proofs.Path.Components
import IngestCheck.Proofs.Plan.Options
import IngestCheck.Proofs.Settings.Resolution

namespace IngestCheck

open IngestCheck.Path (IsName IsNormal Within components)

/-- The folder of a case is a relative path that leads at least one level down and nowhere up. -/
structure Case.Descends (case : Case) : Prop where
  relative : Path.isAbsolute case.folderName = false
  ne_nil : components case.folderName ≠ []
  not_up : Path.dotDot ∉ components case.folderName

/-- The current directory, where it can be read, is absolute. -/
def Surroundings.Placed (s : Surroundings) : Prop :=
  ∀ dir, s.currentDirectory = .ok dir → Path.isAbsolute dir = true

theorem Surroundings.absolute_eq_assemble {s : Surroundings} (hs : s.Placed) {p q : Path}
    (h : s.absolute p = .ok q) : ∃ ns, (∀ n ∈ ns, IsName n) ∧ q = Path.assemble true ns := by
  have hnormal {p : Path} (hp : Path.isAbsolute p = true) :
      ∃ ns, (∀ n ∈ ns, IsName n) ∧ Path.normal p = Path.assemble true ns :=
    ⟨Path.names p, Path.names_isName p, by rw [Path.normal, hp]⟩
  unfold absolute at h
  split at h
  · obtain rfl := Except.ok.inj h
    exact hnormal ‹_›
  · split at h
    · rename_i dir hdir
      obtain rfl := Except.ok.inj h
      exact hnormal (Path.isAbsolute_join (hs dir hdir))
    · cases h

namespace Settings

variable {case : Case} {s : Surroundings} {o : Overrides} {settings : Settings}

theorem rootOf_assemble {ns : List Bytes} (hns : ∀ n ∈ ns, IsName n) {root : Path}
    (h : rootOf (Path.assemble true ns) = .ok root) :
    ∃ parents name, ns = parents ++ [name] ∧ root = Path.assemble true parents := by
  rw [rootOf, Path.parent?_assemble hns] at h
  by_cases hne : ns = []
  · subst hne
    cases h
  · rw [if_neg (by simpa using hne)] at h
    obtain rfl := Except.ok.inj h
    exact ⟨ns.dropLast, ns.getLast hne, (List.dropLast_append_getLast hne).symm, rfl⟩

structure Located (settings : Settings) (parents : List Bytes) (name : Bytes)
    (output : List Bytes) : Prop where
  isName : ∀ n ∈ parents ++ [name], IsName n
  output_isName : ∀ n ∈ output, IsName n
  repositoryRoot : settings.repositoryRoot = Path.assemble true parents
  scriptDirectory : settings.scriptDirectory = Path.assemble true (parents ++ [name])
  outputRoot : settings.outputRoot = Path.assemble true output

theorem located_of_resolve (hs : s.Placed) (h : resolve case s o = .ok settings) :
    ∃ parents name output, settings.Located parents name output := by
  obtain ⟨chosen, -, scripts, hscripts, root, hroot, output, houtput, rfl⟩ := resolve_eq_ok_iff.mp h
  obtain ⟨ns, hns, rfl⟩ := Surroundings.absolute_eq_assemble hs hscripts
  obtain ⟨parents, name, rfl, rfl⟩ := rootOf_assemble hns hroot
  obtain ⟨below, hbelow, rfl⟩ : ∃ below, (∀ n ∈ below, IsName n) ∧
      output = Path.assemble true below := by
    unfold outputRootOf at houtput
    split at houtput
    · exact Surroundings.absolute_eq_assemble hs houtput
    · obtain rfl := Except.ok.inj houtput
      exact ⟨_, hns, rfl⟩
  exact ⟨parents, name, below, hns, hbelow, rfl, rfl, rfl⟩

theorem outputRoot_of_resolve (h : resolve case s o = .ok settings)
    (hunset : s.nonEmpty? outputRootVariable = none) :
    settings.outputRoot = settings.scriptDirectory := by
  obtain ⟨chosen, -, scripts, -, root, -, output, houtput, rfl⟩ := resolve_eq_ok_iff.mp h
  rw [outputRootOf, hunset] at houtput
  exact (Except.ok.inj houtput).symm

theorem scratch_of_resolve (h : resolve case s o = .ok settings) :
    settings.outputDirectory =
        Path.join (Path.join settings.outputRoot "structured-output") case.folderName ∧
      settings.workDirectory =
        Path.join (Path.join settings.outputRoot "workdir") case.folderName := by
  obtain ⟨chosen, -, scripts, -, root, -, output, -, rfl⟩ := resolve_eq_ok_iff.mp h
  exact ⟨rfl, rfl⟩

theorem components_scratch (hcase : case.Descends) {root : Path} {kind : String}
    (hkind : Path.isAbsolute kind = false) (hname : components kind = [Bytes.ofString kind]) :
    components (Path.join (Path.join root kind) case.folderName) =
      components root ++ Bytes.ofString kind :: components case.folderName := by
  rw [Path.components_join hcase.relative, Path.components_join hkind, hname, List.append_assoc,
    List.singleton_append]

theorem outputDirectory_components (hcase : case.Descends) (h : resolve case s o = .ok settings) :
    components settings.outputDirectory = components settings.outputRoot ++
      Bytes.ofString "structured-output" :: components case.folderName := by
  rw [(scratch_of_resolve h).1, components_scratch hcase (by decide) (by decide)]

theorem workDirectory_components (hcase : case.Descends) (h : resolve case s o = .ok settings) :
    components settings.workDirectory = components settings.outputRoot ++
      Bytes.ofString "workdir" :: components case.folderName := by
  rw [(scratch_of_resolve h).2, components_scratch hcase (by decide) (by decide)]

/-- What is right about the places of resolved settings. -/
structure Confined (case : Case) (s : Surroundings) (settings : Settings) : Prop where
  scriptDirectory_isNormal : IsNormal settings.scriptDirectory
  repositoryRoot_isNormal : IsNormal settings.repositoryRoot
  outputRoot_isNormal : IsNormal settings.outputRoot
  scripts_in_repository : ∃ name,
    components settings.scriptDirectory = components settings.repositoryRoot ++ [name]
  output_components : components settings.outputDirectory = components settings.outputRoot ++
    Bytes.ofString "structured-output" :: components case.folderName
  work_components : components settings.workDirectory = components settings.outputRoot ++
    Bytes.ofString "workdir" :: components case.folderName
  below (dir : Path) : dir ∈ settings.scratch → Path.isAbsolute dir = true ∧
    Path.dotDot ∉ components dir ∧ Within settings.outputRoot dir ∧
    ¬ Within dir settings.outputRoot
  apart : ¬ Within settings.outputDirectory settings.workDirectory ∧
    ¬ Within settings.workDirectory settings.outputDirectory
  ingest_passes (key : Bytes) :
    let words := (Plan.ofSettings settings key).ingest.arguments.tail
    Plan.valueOf? "--output-dir" words = some settings.outputDirectory ∧
      Plan.valueOf? "--work-dir" words = some settings.workDirectory
  copy_passes (key : Bytes) :
    (Plan.ofSettings settings key).copy.arguments.head? = some settings.outputDirectory
  tidied (dryRun : Bool) (w : Responder Check.Request Check.Request.Reply) :
    ((Check.run settings dryRun).play w []).2.filterMap Check.lookedFor? =
      [settings.outputDirectory, settings.workDirectory]
  removed (dryRun : Bool) (w : Responder Check.Request Check.Request.Reply) (path : Path)
    (r : Check.Request.Reply (.remove path)) :
    ⟨.remove path, r⟩ ∈ ((Check.run settings dryRun).play w []).2 → path ∈ settings.scratch
  scripts_spared : s.value? outputRootVariable = none ∨ s.value? outputRootVariable = some [] →
    ∀ dir ∈ settings.scratch,
      ∀ p ∈ [settings.diffScript, settings.copyScript, settings.scriptDirectory], ¬ Within dir p

theorem exists_components_of_mem_scratch (hcase : case.Descends)
    (h : resolve case s o = .ok settings) {dir : Path} (hdir : dir ∈ settings.scratch) :
    ∃ kind, components dir =
        components settings.outputRoot ++ Bytes.ofString kind :: components case.folderName ∧
      Bytes.ofString kind ≠ Path.dotDot := by
  rcases List.mem_pair.mp hdir with rfl | rfl
  · exact ⟨_, outputDirectory_components hcase h, by decide⟩
  · exact ⟨_, workDirectory_components hcase h, by decide⟩

theorem isAbsolute_of_mem_scratch (h : resolve case s o = .ok settings)
    (hroot : Path.isAbsolute settings.outputRoot = true) {dir : Path}
    (hdir : dir ∈ settings.scratch) : Path.isAbsolute dir = true := by
  obtain ⟨houtput, hwork⟩ := scratch_of_resolve h
  rcases List.mem_pair.mp hdir with rfl | rfl
  · rw [houtput]
    exact Path.isAbsolute_join (Path.isAbsolute_join hroot)
  · rw [hwork]
    exact Path.isAbsolute_join (Path.isAbsolute_join hroot)

theorem dotDot_notMem_of_mem_scratch (hcase : case.Descends) (h : resolve case s o = .ok settings)
    (hroot : Path.dotDot ∉ components settings.outputRoot) {dir : Path}
    (hdir : dir ∈ settings.scratch) : Path.dotDot ∉ components dir := by
  obtain ⟨kind, hcomponents, hkind⟩ := exists_components_of_mem_scratch hcase h hdir
  rw [hcomponents, List.mem_append, List.mem_cons]
  rintro (hup | hup | hup)
  · exact hroot hup
  · exact hkind hup.symm
  · exact hcase.not_up hup

theorem within_of_mem_scratch (hcase : case.Descends) (h : resolve case s o = .ok settings)
    {dir : Path} (hdir : dir ∈ settings.scratch) : Within settings.outputRoot dir := by
  obtain ⟨kind, hcomponents, -⟩ := exists_components_of_mem_scratch hcase h hdir
  rw [Within, hcomponents]
  exact List.prefix_append _ _

theorem not_within_of_length_le (hcase : case.Descends) (h : resolve case s o = .ok settings)
    {dir p : Path} (hdir : dir ∈ settings.scratch)
    (hp : (components p).length ≤ (components settings.outputRoot).length + 1) :
    ¬ Within dir p := by
  intro hwithin
  -- a scratch directory has the name of its kind and at least one of the case behind the root
  obtain ⟨kind, hcomponents, -⟩ := exists_components_of_mem_scratch hcase h hdir
  have hdeep := hwithin.length_le
  have hfolder := List.length_pos_iff.mpr hcase.ne_nil
  rw [hcomponents, List.length_append, List.length_cons] at hdeep
  omega

theorem length_components_script (settings : Settings) {file : String}
    (hrelative : Path.isAbsolute file = false) (hname : components file = [Bytes.ofString file]) :
    (components (Path.join settings.scriptDirectory file)).length =
      (components settings.scriptDirectory).length + 1 := by
  rw [Path.components_join hrelative, hname, List.length_append, List.length_singleton]

theorem not_within_of_unset (hcase : case.Descends) (h : resolve case s o = .ok settings)
    (hunset : s.nonEmpty? outputRootVariable = none) {dir p : Path} (hdir : dir ∈ settings.scratch)
    (hp : p ∈ [settings.diffScript, settings.copyScript, settings.scriptDirectory]) :
    ¬ Within dir p := by
  refine not_within_of_length_le hcase h hdir ?_
  rw [outputRoot_of_resolve h hunset]
  simp only [List.mem_cons, List.not_mem_nil, or_false] at hp
  rcases hp with rfl | rfl | rfl
  · exact Nat.le_of_eq (length_components_script settings (by decide) (by decide))
  · exact Nat.le_of_eq (length_components_script settings (by decide) (by decide))
  · exact Nat.le_succ _

/-- Wherever a check is placed, the directories that it removes are its own. -/
theorem confined_of_resolve (hcase : case.Descends) (hs : s.Placed)
    (h : resolve case s o = .ok settings) : Confined case s settings := by
  obtain ⟨parents, name, output, located⟩ := located_of_resolve hs h
  have hparents : ∀ n ∈ parents, IsName n := fun n hn ↦
    located.isName n (List.mem_append_left [name] hn)
  have hroot : Path.isAbsolute settings.outputRoot = true := by
    rw [located.outputRoot]
    rfl
  have hdown : Path.dotDot ∉ components settings.outputRoot := by
    rw [located.outputRoot, Path.components_assemble located.output_isName]
    exact fun hup ↦ (located.output_isName _ hup).ne_dotDot rfl
  exact {
    scriptDirectory_isNormal := by
      rw [located.scriptDirectory]
      exact Path.isNormal_assemble located.isName
    repositoryRoot_isNormal := by
      rw [located.repositoryRoot]
      exact Path.isNormal_assemble hparents
    outputRoot_isNormal := by
      rw [located.outputRoot]
      exact Path.isNormal_assemble located.output_isName
    scripts_in_repository := by
      refine ⟨name, ?_⟩
      rw [located.scriptDirectory, located.repositoryRoot,
        Path.components_assemble located.isName, Path.components_assemble hparents]
    output_components := outputDirectory_components hcase h
    work_components := workDirectory_components hcase h
    below := fun dir hdir ↦ ⟨isAbsolute_of_mem_scratch h hroot hdir,
      dotDot_notMem_of_mem_scratch hcase h hdown hdir, within_of_mem_scratch hcase h hdir,
      not_within_of_length_le hcase h hdir (Nat.le_succ _)⟩
    apart := by
      have houtput := outputDirectory_components hcase h
      have hwork := workDirectory_components hcase h
      exact ⟨Path.not_within_of_ne (by decide) houtput hwork,
        Path.not_within_of_ne (by decide) hwork houtput⟩
    ingest_passes := fun key ↦ ⟨Plan.outputDirectory_ingestCommand settings key,
      Plan.workDirectory_ingestCommand settings key⟩
    copy_passes := fun _ ↦ rfl
    tidied := Check.run_lookedFor settings
    removed := fun dryRun w _ _ hmem ↦ Check.run_removes settings dryRun w hmem
    scripts_spared := by
      intro hvalue dir hdir p hp
      have hunset : s.nonEmpty? outputRootVariable = none := by
        rcases hvalue with hvalue | hvalue <;> rw [Surroundings.nonEmpty?, hvalue] <;> rfl
      exact not_within_of_unset hcase h hunset hdir hp }

def rootedAt (root : Bytes) : Surroundings where
  value? name := if name = outputRootVariable then some root else none
  processors := 1
  executableDirectory := .ok "/repo/bin"
  currentDirectory := .ok "/repo/e2e"

/-- A root and scripts reached by a detour, and no root at all. -/
theorem confined_of_detour :
    let o : Overrides := { scriptDirectory := some "a/../scripts" }
    (∃ settings, resolve .octoai (rootedAt "../out/./x//") o = .ok settings ∧
      settings.workDirectory = "/repo/out/x/workdir/embed-octoai" ∧
      Confined .octoai (rootedAt "../out/./x//") settings) ∧
    ∃ settings, resolve .octoai (rootedAt "") {} = .ok settings ∧
      settings.workDirectory = "/repo/bin/workdir/embed-octoai" ∧
      Confined .octoai (rootedAt "") settings := by
  intro o
  have hcase : Case.octoai.Descends := ⟨by decide, by decide, by decide⟩
  have hplaced (root : Bytes) : (rootedAt root).Placed := by
    intro dir hdir
    obtain rfl := Except.ok.inj hdir
    decide
  have hdetour : resolve .octoai (rootedAt "../out/./x//") o =
      .ok (assemble .octoai (rootedAt "../out/./x//") o
        "/repo/e2e/scripts" "/repo/e2e" "/repo/out/x") :=
    resolve_eq_ok_iff.mpr ⟨_, rfl, _, by decide, _, by decide, _, by decide, rfl⟩
  have hunset : resolve .octoai (rootedAt "") {} =
      .ok (assemble .octoai (rootedAt "") {} "/repo/bin" "/repo" "/repo/bin") :=
    resolve_eq_ok_iff.mpr ⟨_, rfl, _, by decide, _, by decide, _, by decide, rfl⟩
  refine ⟨⟨_, hdetour, by decide, ?_⟩, _, hunset, by decide, ?_⟩
  · exact confined_of_resolve hcase (hplaced _) hdetour
  · exact confined_of_resolve hcase (hplaced _) hunset

end Settings

end IngestCheck
