import IngestCheck.Plan
import IngestCheck.Proofs.Command.Assembly
import IngestCheck.Proofs.Display.Masking

namespace IngestCheck

structure Surroundings.AgreeBut (name : String) (s s' : Surroundings) : Prop where
  value? (n : String) : n ≠ name → s.value? n = s'.value? n
  processors : s.processors = s'.processors
  executableDirectory : s.executableDirectory = s'.executableDirectory
  currentDirectory : s.currentDirectory = s'.currentDirectory

theorem Surroundings.AgreeBut.refl {name : String} (s : Surroundings) : s.AgreeBut name s :=
  ⟨fun _ _ ↦ rfl, rfl, rfl, rfl⟩

namespace Settings

def withKey (s : Settings) (key : Bytes) : Settings := { s with apiKey? := some key }

/-- The variables that the settings depend on, the credential aside. -/
def ownVariables : List String := [outputRootVariable, maxProcessesVariable, pythonPathVariable]

section

variable {case : Case} {e e' : Surroundings} {key : Bytes}

theorem nonEmpty?_eq (h : e.AgreeBut case.credentialVariable e')
    (hown : case.credentialVariable ∉ ownVariables) {name : String} (hname : name ∈ ownVariables) :
    e.nonEmpty? name = e'.nonEmpty? name := by
  have hne : name ≠ case.credentialVariable := fun heq ↦ hown (heq ▸ hname)
  rw [Surroundings.nonEmpty?, Surroundings.nonEmpty?, h.value? name hne]

theorem absolute_eq {name : String} (h : e.AgreeBut name e') (p : Path) :
    e.absolute p = e'.absolute p := by
  rw [Surroundings.absolute, Surroundings.absolute, h.currentDirectory]

theorem assemble_eq (h : e.AgreeBut case.credentialVariable e')
    (hown : case.credentialVariable ∉ ownVariables)
    (hkey : e.nonEmpty? case.credentialVariable = some key) (o : Overrides)
    (scripts root output : Path) :
    assemble case e o scripts root output =
      (assemble case e' o scripts root output).withKey key := by
  have hmax := nonEmpty?_eq h hown (List.mem_of_getElem? (i := 1) rfl)
  have hpython := nonEmpty?_eq h hown (List.mem_of_getElem? (i := 2) rfl)
  simp only [assemble, withKey, hmax, hpython, hkey, h.processors]

theorem resolve_eq (h : e.AgreeBut case.credentialVariable e')
    (hown : case.credentialVariable ∉ ownVariables)
    (hkey : e.nonEmpty? case.credentialVariable = some key) (o : Overrides) :
    resolve case e o = (resolve case e' o).map fun s ↦ s.withKey key := by
  have hchosen : chosenDirectory e o = chosenDirectory e' o := by
    rw [chosenDirectory, chosenDirectory, h.executableDirectory]
  have houtput (scripts : Path) : outputRootOf e scripts = outputRootOf e' scripts := by
    rw [outputRootOf, outputRootOf, nonEmpty?_eq h hown List.mem_cons_self]
    simp only [absolute_eq h]
  simp only [resolve, hchosen, houtput, absolute_eq h, assemble_eq h hown hkey]
  cases chosenDirectory e' o with
  | error => rfl
  | ok dir =>
    dsimp only [bind, Except.bind]
    cases e'.absolute dir with
    | error => rfl
    | ok scripts =>
      dsimp only
      cases rootOf scripts with
      | error => rfl
      | ok root =>
        dsimp only
        cases outputRootOf e' scripts <;> rfl

end

/-- The key occurs in no word of the ingest command but the last, which is the key. -/
def Hides (s : Settings) (key : Bytes) : Prop :=
  ∀ word ∈ (Plan.ingestCommand s key).words.dropLast, ¬ Utf8.lossy key <:+: Utf8.lossy word

end Settings

structure Command.ShownAlike (c c' : Command) : Prop where
  displayLine : c.displayLine = c'.displayLine
  programName : c.programName = c'.programName
  bindings : c.bindings = c'.bindings
  directory : c.directory = c'.directory

theorem Command.ShownAlike.refl (c : Command) : c.ShownAlike c := ⟨rfl, rfl, rfl, rfl⟩

namespace Plan

variable {s : Settings} {key key' : Bytes}

theorem secrets_ingestCommand (s : Settings) (key : Bytes) :
    (ingestCommand s key).secrets = [key] := by
  simp [ingestCommand, Command.Piece.secrets]

theorem words_ingestCommand (s : Settings) (key : Bytes) :
    (ingestCommand s key).words = (ingestCommand s key).words.dropLast ++ [key] := by
  simp [ingestCommand, Command.Piece.words]

theorem displayLine_ingestCommand (hne : key ≠ []) (h : s.Hides key) :
    (ingestCommand s key).displayLine = String.ofList (ShellWord.join
      ((ingestCommand s key).words.dropLast.map Utf8.lossy ++ [Mask.stars])) := by
  have hredact (word : Bytes) : (ingestCommand s key).redact word =
      Mask.replace (Utf8.lossy key) Mask.stars (Utf8.lossy word) := by
    simp [Command.redact, Command.masked, secrets_ingestCommand, Mask.all, hne]
  have hshown : (ingestCommand s key).words.dropLast.map (ingestCommand s key).redact =
      (ingestCommand s key).words.dropLast.map Utf8.lossy :=
    List.map_congr_left fun word hword ↦ by rw [hredact, Mask.replace_eq_self (h word hword)]
  have hlast : (ingestCommand s key).redact key = Mask.stars := by
    rw [hredact, Mask.replace_self (Utf8.lossy_ne_nil hne)]
  have hmap : (ingestCommand s key).words.map (ingestCommand s key).redact =
      (ingestCommand s key).words.dropLast.map Utf8.lossy ++ [Mask.stars] := by
    rw [← hshown, ← hlast, ← List.map_singleton, ← List.map_append, ← words_ingestCommand]
  rw [Command.displayLine, hmap]

theorem shownAlike_ingestCommand (hne : key ≠ []) (hne' : key' ≠ [])
    (h : (s.withKey key).Hides key) (h' : (s.withKey key').Hides key') :
    (ingestCommand (s.withKey key) key).ShownAlike (ingestCommand (s.withKey key') key') where
  displayLine := by
    have hwords : (ingestCommand (s.withKey key) key).words.dropLast =
        (ingestCommand (s.withKey key') key').words.dropLast := by
      simp [ingestCommand, Command.Piece.words, Settings.withKey]
    rw [displayLine_ingestCommand hne h, displayLine_ingestCommand hne' h', hwords]
  programName := by simp [ingestCommand, Command.programName, Settings.withKey]
  bindings := by simp [ingestCommand, Command.Piece.bind, Settings.withKey]
  directory := by simp [ingestCommand, Command.Piece.move, Settings.withKey]

end Plan

end IngestCheck
