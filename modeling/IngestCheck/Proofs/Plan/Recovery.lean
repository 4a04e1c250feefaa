import IngestCheck.Proofs.Command.Assembly
import IngestCheck.Proofs.Plan.Options
import IngestCheck.Proofs.Text.Encoding
import Mathlib.Data.List.Nodup

namespace IngestCheck

/-- The metadata to leave out can be told apart when they are written in one word. -/
structure Case.ExcludesPlainly (case : Case) : Prop where
  ne_nil : case.metadataExclude ≠ []
  comma_notMem : ∀ entry ∈ case.metadataExclude, ',' ∉ entry.toList

theorem Case.splitOn_metadataExcludeArgument_iff (case : Case) :
    (Bytes.ofString case.metadataExcludeArgument).splitOn (UInt8.ofNat ','.toNat) =
      case.metadataExclude.map Bytes.ofString ↔ case.ExcludesPlainly := by
  have hcomma : String.singleton ',' = "," := rfl
  rw [metadataExcludeArgument, ← hcomma, Bytes.splitOn_intercalate_iff (by decide)]
  exact ⟨fun h ↦ ⟨h.1, h.2⟩, fun h ↦ ⟨h.ne_nil, h.comma_notMem⟩⟩

namespace Plan

def Given.words (given : Given) : List Bytes := given.option :: given.value?.toList

theorem flatMap_words_options (words : List Bytes) :
    (options words).flatMap Given.words = words := by
  fun_induction options words with
  | case1 => rfl
  | case2 option => rfl
  | case3 option value rest hswitch ih => simp [Given.words, ih]
  | case4 option value rest hswitch ih => simp [Given.words, ih]

theorem valueOf?_of_mem {words : List Bytes} {given : Given}
    (hnodup : ((options words).map Given.option).Nodup) (h : given ∈ options words) :
    valueOf? given.option words = given.value? := by
  unfold valueOf?
  cases hfind : (options words).find? (·.option = given.option) with
  | none => simpa using List.find?_eq_none.mp hfind given h
  | some found =>
    have hoption : found.option = given.option := by simpa using List.find?_some hfind
    have hsame := List.inj_on_of_nodup_map hnodup (List.mem_of_find?_eq_some hfind) h hoption
    rw [hsame]
    rfl

def assigned (s : Settings) (key : Bytes) : List (Bytes × Bytes) := [
  ("--num-processes", s.maxProcesses),
  ("--metadata-exclude", s.case.metadataExcludeArgument),
  ("--output-dir", s.outputDirectory),
  ("--input-path", s.case.inputPath),
  ("--work-dir", s.workDirectory),
  ("--embedding-provider", s.case.embeddingProvider),
  ("--embedding-api-key", key)]

/-- Settings and keys that the ingestion tool cannot tell apart. -/
structure SameIngest (s : Settings) (key : Bytes) (s' : Settings) (key' : Bytes) : Prop where
  ingestProgram : s.ingestProgram = s'.ingestProgram
  connector : s.case.connector = s'.case.connector
  maxProcesses : s.maxProcesses = s'.maxProcesses
  metadataExclude : s.case.ExcludesPlainly → s'.case.ExcludesPlainly →
    s.case.metadataExclude = s'.case.metadataExclude
  outputDirectory : s.outputDirectory = s'.outputDirectory
  inputPath : s.case.inputPath = s'.case.inputPath
  workDirectory : s.workDirectory = s'.workDirectory
  embeddingProvider : s.case.embeddingProvider = s'.case.embeddingProvider
  key : key = key'
  pythonPath : s.pythonPath = s'.pythonPath
  repositoryRoot : s.repositoryRoot = s'.repositoryRoot

section

variable (s s' : Settings) (key key' : Bytes)

theorem bindings_ingestCommand :
    (ingestCommand s key).bindings.get? Settings.pythonPathVariable = some s.pythonPath := rfl

theorem options_ingestCommand_perm :
    ((options (ingestCommand s key).arguments.tail).map Given.option).Perm
      (switches ++ (assigned s key).map Prod.fst) := by
  let before : List Bytes := ["--num-processes", "--metadata-exclude", "--output-dir"]
  let behind : List Bytes :=
    ["--input-path", "--work-dir", "--embedding-provider", "--embedding-api-key"]
  have hswap : (before ++ switches ++ behind).Perm (switches ++ before ++ behind) :=
    List.perm_append_comm.append_right behind
  rw [options_ingestCommand]
  exact hswap

theorem nodup_assigned : (switches ++ (assigned s key).map Prod.fst).Nodup := by
  simp only [assigned, List.map_cons, List.map_nil]
  decide

theorem fits_ingestCommand {given : Given}
    (h : given ∈ options (ingestCommand s key).arguments.tail) :
    given.value? = none ↔ given.option ∈ switches := by
  revert given
  rw [options_ingestCommand]
  simp only [List.forall_mem_cons, reduceCtorEq, false_iff, true_iff]
  decide

theorem mem_options_ingestCommand {entry : Bytes × Bytes} (h : entry ∈ assigned s key) :
    ⟨entry.1, some entry.2⟩ ∈ options (ingestCommand s key).arguments.tail := by
  rw [options_ingestCommand]
  simp only [assigned, List.mem_cons, List.not_mem_nil, or_false] at h
  rcases h with rfl | rfl | rfl | rfl | rfl | rfl | rfl <;> simp

theorem sameIngest_of_eq (h : ingestCommand s key = ingestCommand s' key') :
    SameIngest s key s' key' := by
  have hprogram := congrArg Command.program h
  have hdirectory := congrArg Command.directory h
  have hpython := congrArg (fun c ↦ c.bindings.get? Settings.pythonPathVariable) h
  have hconnector := congrArg (fun c ↦ c.arguments.head?) h
  have hoptions := congrArg (fun c ↦ options c.arguments.tail) h
  simp only [options_ingestCommand, List.cons.injEq, Given.mk.injEq, Option.some.injEq, true_and,
    and_true] at hoptions
  obtain ⟨hmax, hexclude, houtput, hinput, hwork, hprovider, hkey⟩ := hoptions
  exact {
    ingestProgram := hprogram
    connector := Bytes.ofString_injective (Option.some.inj hconnector)
    maxProcesses := hmax
    metadataExclude := by
      intro hplain hplain'
      have hsplit := s.case.splitOn_metadataExcludeArgument_iff.mpr hplain
      have hsplit' := s'.case.splitOn_metadataExcludeArgument_iff.mpr hplain'
      rw [hexclude, hsplit'] at hsplit
      exact (List.map_injective_iff.mpr Bytes.ofString_injective hsplit).symm
    outputDirectory := houtput
    inputPath := Bytes.ofString_injective hinput
    workDirectory := hwork
    embeddingProvider := Bytes.ofString_injective hprovider
    key := hkey
    pythonPath := Option.some.inj hpython
    repositoryRoot := Option.some.inj hdirectory }

/-- What can be read off an ingest command. The connector comes first. Behind it no word is left
over and none is missing, each option is met once, and the values are those of the settings. -/
structure Recovered : Prop where
  connector : (ingestCommand s key).arguments.head? = some (Bytes.ofString s.case.connector)
  consumed :
    (options (ingestCommand s key).arguments.tail).flatMap Given.words =
      (ingestCommand s key).arguments.tail ∧
    ∀ given ∈ options (ingestCommand s key).arguments.tail,
      given.value? = none ↔ given.option ∈ switches
  once (option : Bytes) :
    ((options (ingestCommand s key).arguments.tail).map Given.option).count option =
      if option ∈ switches ++ (assigned s key).map Prod.fst then 1 else 0
  value (entry : Bytes × Bytes) : entry ∈ assigned s key →
    valueOf? entry.1 (ingestCommand s key).arguments.tail = some entry.2
  metadataExclude :
    (Bytes.ofString s.case.metadataExcludeArgument).splitOn (UInt8.ofNat ','.toNat) =
      s.case.metadataExclude.map Bytes.ofString ↔ s.case.ExcludesPlainly
  ingestProgram : (ingestCommand s key).program = s.ingestProgram
  pythonPath :
    (ingestCommand s key).bindings.get? Settings.pythonPathVariable = some s.pythonPath
  repositoryRoot : (ingestCommand s key).directory = some s.repositoryRoot
  same (s' : Settings) (key' : Bytes) :
    ingestCommand s key = ingestCommand s' key' → SameIngest s key s' key'

/-- An ingest command tells all that went into it, whatever its words look like. -/
theorem ingestCommand_recovered : Recovered s key where
  connector := rfl
  consumed := ⟨flatMap_words_options _, fun _ h ↦ fits_ingestCommand s key h⟩
  once option := by
    rw [(options_ingestCommand_perm s key).count_eq, (nodup_assigned s key).count]
  value entry h := by
    have hnodup := (options_ingestCommand_perm s key).nodup_iff.mpr (nodup_assigned s key)
    have hvalue := valueOf?_of_mem hnodup (mem_options_ingestCommand s key h)
    exact hvalue
  metadataExclude := s.case.splitOn_metadataExcludeArgument_iff
  ingestProgram := rfl
  pythonPath := bindings_ingestCommand s key
  repositoryRoot := rfl
  same s' key' h := sameIngest_of_eq s s' key key' h

end

end Plan

end IngestCheck
