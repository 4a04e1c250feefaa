import IngestCheck.Settings

namespace IngestCheck

section

variable {ε α β : Type} {x : Except ε α} {f : α → Except ε β}

theorem bind_eq_ok_iff {b : β} : (x >>= f) = .ok b ↔ ∃ a, x = .ok a ∧ f a = .ok b := by
  cases x <;> simp [bind, Except.bind]

theorem bind_eq_error_iff {e : ε} :
    (x >>= f) = .error e ↔ x = .error e ∨ ∃ a, x = .ok a ∧ f a = .error e := by
  cases x <;> simp [bind, Except.bind]

end

theorem Surroundings.nonEmpty?_eq_some_iff {s : Surroundings} {name : String} {value : Bytes} :
    s.nonEmpty? name = some value ↔ s.value? name = some value ∧ value ≠ [] := by
  rw [nonEmpty?, Option.filter_eq_some_iff]
  simp

namespace Settings

variable {case : Case} {s : Surroundings} {o : Overrides}

theorem resolve_eq_ok_iff {settings : Settings} : resolve case s o = .ok settings ↔
    ∃ chosen, chosenDirectory s o = .ok chosen ∧ ∃ scripts, s.absolute chosen = .ok scripts ∧
      ∃ root, rootOf scripts = .ok root ∧ ∃ output, outputRootOf s scripts = .ok output ∧
        assemble case s o scripts root output = settings := by
  simp only [resolve, bind_eq_ok_iff, pure, Except.pure, Except.ok.injEq]

theorem apiKey?_eq_some_iff {settings : Settings} (h : resolve case s o = .ok settings)
    {key : Bytes} :
    settings.apiKey? = some key ↔ s.value? case.credentialVariable = some key ∧ key ≠ [] := by
  obtain ⟨_, -, _, -, _, -, _, -, rfl⟩ := resolve_eq_ok_iff.mp h
  exact Surroundings.nonEmpty?_eq_some_iff

theorem absolute_eq_error {p : Path} {e : CheckError} (h : s.absolute p = .error e) :
    ∃ text, e = .configuration text := by
  unfold Surroundings.absolute at h
  split at h
  · cases h
  · split at h <;> cases h
    exact ⟨_, rfl⟩

theorem chosenDirectory_eq_error {e : CheckError} (h : chosenDirectory s o = .error e) :
    ∃ text, e = .configuration text := by
  unfold chosenDirectory at h
  split at h
  · cases h
  · split at h <;> cases h
    exact ⟨_, rfl⟩

theorem rootOf_eq_error {scripts : Path} {e : CheckError} (h : rootOf scripts = .error e) :
    ∃ text, e = .configuration text := by
  unfold rootOf at h
  split at h <;> cases h
  exact ⟨_, rfl⟩

theorem outputRootOf_eq_error {scripts : Path} {e : CheckError}
    (h : outputRootOf s scripts = .error e) : ∃ text, e = .configuration text := by
  unfold outputRootOf at h
  split at h
  · exact absolute_eq_error h
  · cases h

theorem resolve_eq_error {e : CheckError} (h : resolve case s o = .error e) :
    ∃ text, e = .configuration text := by
  simp only [resolve, bind_eq_error_iff] at h
  obtain h | ⟨_, -, h | ⟨_, -, h | ⟨_, -, h | ⟨_, -, h⟩⟩⟩⟩ := h
  · exact chosenDirectory_eq_error h
  · exact absolute_eq_error h
  · exact rootOf_eq_error h
  · exact outputRootOf_eq_error h
  · cases h

end Settings

end IngestCheck
