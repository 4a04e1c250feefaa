import IngestCheck.Check.Pipeline
import IngestCheck.Proofs.Credential.Displays
import IngestCheck.Proofs.Script.Monitor
import IngestCheck.Proofs.Settings.Resolution
import IngestCheck.Proofs.Text.Encoding

namespace IngestCheck

inductive Numeral : Bytes → ℕ → Prop
  | digit {d : ℕ} (hd : d < 10) : Numeral [UInt8.ofNat (48 + d)] d
  | shifted {text : Bytes} {n d : ℕ} (h : Numeral text n) (hn : 0 < n) (hd : d < 10) :
    Numeral (text ++ [UInt8.ofNat (48 + d)]) (10 * n + d)

namespace Numeral

theorem utf8EncodeChar_digitChar {d : ℕ} (hd : d < 10) :
    String.utf8EncodeChar d.digitChar = [UInt8.ofNat (48 + d)] := by
  have hval : d.digitChar.toNat = 48 + d := Nat.toNat_digitChar_of_lt_ten hd
  rw [Utf8.utf8EncodeChar_of_ascii (by omega), hval]

theorem encode_toDigits (n : ℕ) : Numeral (Utf8.encode (Nat.toDigits 10 n)) n := by
  induction n using Nat.strong_induction_on with
  | h n ih =>
    by_cases hn : n < 10
    · rw [Nat.toDigits_of_lt_base hn, Utf8.encode, List.flatMap_singleton,
        utf8EncodeChar_digitChar hn]
      exact .digit hn
    · have hd : n % 10 < 10 := Nat.mod_lt n (by decide)
      have htext : Utf8.encode (Nat.toDigits 10 n) =
          Utf8.encode (Nat.toDigits 10 (n / 10)) ++ [UInt8.ofNat (48 + n % 10)] := by
        rw [Nat.toDigits_of_base_le (by decide) (by omega), Utf8.encode, List.flatMap_append,
          List.flatMap_singleton, utf8EncodeChar_digitChar hd]
        rfl
      have hshifted := (ih (n / 10) (by omega)).shifted (by omega) hd
      rwa [← htext, Nat.div_add_mod] at hshifted

theorem ofString_toString (n : ℕ) : Numeral (Bytes.ofString (toString n)) n := by
  rw [Bytes.ofString, Nat.toString_eq_repr, Nat.toList_repr]
  exact encode_toDigits n

end Numeral

def Surroundings.Holds (s : Surroundings) (name : String) (value : Bytes) : Prop :=
  s.value? name = some value ∧ value ≠ []

def Case.consulted (case : Case) : List String :=
  case.credentialVariable :: Settings.ownVariables

/-- Surroundings that a check cannot tell apart. -/
structure Surroundings.Alike (case : Case) (s s' : Surroundings) : Prop where
  processors : s.processors = s'.processors
  executableDirectory : s.executableDirectory = s'.executableDirectory
  currentDirectory : s.currentDirectory = s'.currentDirectory
  holds_iff : ∀ name ∈ case.consulted, ∀ value, s.Holds name value ↔ s'.Holds name value

namespace Surroundings.Alike

open Settings

variable {case : Case} {s s' : Surroundings}

theorem nonEmpty?_eq (h : s.Alike case s') {name : String} (hname : name ∈ case.consulted) :
    s.nonEmpty? name = s'.nonEmpty? name := by
  refine Option.ext fun value ↦ ?_
  rw [nonEmpty?_eq_some_iff, nonEmpty?_eq_some_iff]
  exact h.holds_iff name hname value

theorem absolute_eq (h : s.Alike case s') (p : Path) : s.absolute p = s'.absolute p := by
  rw [absolute, absolute, h.currentDirectory]

theorem chosenDirectory_eq (h : s.Alike case s') (o : Overrides) :
    chosenDirectory s o = chosenDirectory s' o := by
  rw [chosenDirectory, chosenDirectory, h.executableDirectory]

theorem outputRootOf_eq (h : s.Alike case s') (scripts : Path) :
    outputRootOf s scripts = outputRootOf s' scripts := by
  have hname : outputRootVariable ∈ case.consulted := by simp [Case.consulted, ownVariables]
  rw [outputRootOf, outputRootOf, h.nonEmpty?_eq hname]
  simp only [h.absolute_eq]

theorem assemble_eq (h : s.Alike case s') (o : Overrides) (scripts root output : Path) :
    assemble case s o scripts root output = assemble case s' o scripts root output := by
  have hmax : maxProcessesVariable ∈ case.consulted := by simp [Case.consulted, ownVariables]
  have hpython : pythonPathVariable ∈ case.consulted := by simp [Case.consulted, ownVariables]
  have hkey : case.credentialVariable ∈ case.consulted := List.mem_cons_self
  rw [assemble, assemble, h.nonEmpty?_eq hmax, h.nonEmpty?_eq hpython, h.nonEmpty?_eq hkey,
    h.processors]

theorem resolve_eq (h : s.Alike case s') (o : Overrides) :
    resolve case s o = resolve case s' o := by
  simp only [resolve, h.chosenDirectory_eq, h.absolute_eq, h.outputRootOf_eq, h.assemble_eq]

end Surroundings.Alike

namespace Settings

/-- Settings that have taken each variable for what it is. -/
structure Taken (s : Surroundings) (settings : Settings) : Prop where
  maxProcesses : ∀ value, s.Holds maxProcessesVariable value → settings.maxProcesses = value
  counted : (∀ value, ¬ s.Holds maxProcessesVariable value) →
    Numeral settings.maxProcesses (max s.processors 1)
  pythonPath : ∀ value, s.Holds pythonPathVariable value → settings.pythonPath = value
  apiKey : ∀ value, settings.apiKey = .ok value ↔ s.Holds settings.case.credentialVariable value

/-- What two settings are used for, up to the last exchange of a whole check. -/
structure SameUse (settings settings' : Settings) : Prop where
  apiKey : settings.apiKey = settings'.apiKey
  plan : ∀ key, Plan.ofSettings settings key = Plan.ofSettings settings' key
  run : ∀ dryRun (w : Responder Check.Request Check.Request.Reply) past,
    (Check.run settings dryRun).play w past = (Check.run settings' dryRun).play w past

variable {case : Case} {s s' : Surroundings} {o : Overrides} {settings : Settings}

theorem apiKey_eq_ok_iff {value : Bytes} :
    settings.apiKey = .ok value ↔ settings.apiKey? = some value := by
  rw [apiKey]
  cases settings.apiKey? <;> simp

theorem taken_of_resolve (h : resolve case s o = .ok settings) : settings.Taken s := by
  obtain ⟨_, -, _, -, _, -, _, -, rfl⟩ := resolve_eq_ok_iff.mp h
  constructor
  case maxProcesses =>
    intro value hvalue
    rw [assemble, Surroundings.nonEmpty?_eq_some_iff.mpr hvalue]
    rfl
  case counted =>
    intro hnone
    have hmax : s.nonEmpty? maxProcessesVariable = none :=
      Option.eq_none_iff_forall_ne_some.mpr fun value hvalue ↦
        hnone value (Surroundings.nonEmpty?_eq_some_iff.mp hvalue)
    rw [assemble, hmax]
    exact Numeral.ofString_toString _
  case pythonPath =>
    intro value hvalue
    rw [assemble, Surroundings.nonEmpty?_eq_some_iff.mpr hvalue]
    rfl
  case apiKey =>
    intro value
    rw [apiKey_eq_ok_iff]
    exact Surroundings.nonEmpty?_eq_some_iff

/-- Surroundings that a check cannot tell apart give the same settings or the same error, the
settings are used alike, and they have taken over the variables as they are. -/
theorem resolve_alike (h : s.Alike case s') (o : Overrides) :
    resolve case s o = resolve case s' o ∧
      ∀ settings, resolve case s o = .ok settings → settings.Taken s ∧ settings.Taken s' ∧
        ∀ settings', resolve case s' o = .ok settings' → settings.SameUse settings' := by
  have heq := h.resolve_eq o
  refine ⟨heq, fun settings hok ↦ ?_⟩
  have hok' : resolve case s' o = .ok settings := heq ▸ hok
  refine ⟨taken_of_resolve hok, taken_of_resolve hok', fun settings' hsettings' ↦ ?_⟩
  obtain rfl : settings = settings' := Except.ok.inj (hok'.symm.trans hsettings')
  exact ⟨rfl, fun _ ↦ rfl, fun _ _ _ ↦ rfl⟩

/-- A host with two of the variables empty, or the same host without them but with another one. -/
def blankSurroundings (blank? : Option Bytes) (home? : Option Bytes) : Surroundings where
  value? name :=
    if name = outputRootVariable then blank?
    else if name = maxProcessesVariable then blank?
    else if name = pythonPathVariable then some (Bytes.ofString "lib")
    else if name = "OCTOAI_API_KEY" then some (Bytes.ofString "key")
    else if name = "HOME" then home?
    else none
  processors := 0
  executableDirectory := .ok "/repo/e2e"
  currentDirectory := .error .noEntry

theorem resolve_alike_blank :
    let s := blankSurroundings (some []) none
    let s' := blankSurroundings none (some (Bytes.ofString "/root"))
    s.Alike .octoai s' ∧ ∃ settings, resolve .octoai s' {} = .ok settings ∧
      resolve .octoai s {} = .ok settings ∧ settings.outputRoot = Bytes.ofString "/repo/e2e" ∧
      settings.maxProcesses = Bytes.ofString "1" ∧ settings.Taken s := by
  intro s s'
  have hs : s.Alike .octoai s' := by
    refine ⟨rfl, rfl, rfl, fun name hname value ↦ ?_⟩
    simp only [Case.consulted, ownVariables, List.mem_cons, List.not_mem_nil, or_false] at hname
    obtain rfl | rfl | rfl | rfl := hname
    all_goals simp [Surroundings.Holds, s, s', blankSurroundings, Case.octoai, outputRootVariable,
      maxProcessesVariable, pythonPathVariable, eq_comm]
  have hresolve : resolve .octoai s' {} =
      .ok (assemble .octoai s' {} "/repo/e2e" "/repo" "/repo/e2e") :=
    resolve_eq_ok_iff.mpr ⟨_, rfl, _, by decide, _, by decide, _, by decide, rfl⟩
  obtain ⟨heq, huse⟩ := resolve_alike hs {}
  have hresolve' := heq.trans hresolve
  exact ⟨hs, _, hresolve, hresolve', by decide, by decide, (huse _ hresolve').1⟩

end Settings

end IngestCheck
