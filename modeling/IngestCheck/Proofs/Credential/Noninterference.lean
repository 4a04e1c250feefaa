import IngestCheck.Proofs.Credential.Twins

namespace IngestCheck

theorem Likeness.forall₂_filterMap {ρ : Type} {reply : ρ → Type} {β : Type} {l : Likeness ρ reply}
    {R : β → β → Prop} {f : Exchange ρ reply → Option β} {t t' : List (Exchange ρ reply)}
    (h : List.Forall₂ l.Exchanged t t')
    (hf : ∀ q q' r r', l.asked q q' → Option.Rel R (f ⟨q, r⟩) (f ⟨q', r'⟩)) :
    List.Forall₂ R (t.filterMap f) (t'.filterMap f) :=
  List.rel_filterMap (fun e e' he ↦ hf e.1 e'.1 e.2 e'.2 he.1) h

namespace Check

def seen? : Exchange Request Request.Reply → Option Request
  | ⟨.log e, _⟩ => some (.log e)
  | ⟨.print stream text, _⟩ => some (.print stream text)
  | _ => none

def seen (t : List (Exchange Request Request.Reply)) : List Request := t.filterMap seen?

theorem seen?_rel {twins : Command → Command → Prop} {q q' : Request} (r : q.Reply) (r' : q'.Reply)
    (hq : Asked twins q q') : Option.Rel Eq (seen? ⟨q, r⟩) (seen? ⟨q', r'⟩) := by
  cases hq with
  | run h => exact .none
  | same hq =>
    cases q with
    | log | print => exact .some rfl
    | run | present | remove => exact .none

theorem seen_eq {twins : Command → Command → Prop}
    {t t' : List (Exchange Request Request.Reply)}
    (h : List.Forall₂ (likeness twins).Exchanged t t') : seen t = seen t' := by
  rw [← List.forall₂_eq_eq_eq]
  exact Likeness.forall₂_filterMap h fun _ _ r r' hq ↦ seen?_rel r r' hq

end Check

namespace Interruption

def seen? : Exchange Request Request.Reply → Option Check.Request
  | ⟨.check q, r⟩ => Check.seen? ⟨q, r⟩
  | _ => none

def seen (t : List (Exchange Request Request.Reply)) : List Check.Request := t.filterMap seen?

def runnerEvent? : Exchange Request Request.Reply → Option Event
  | ⟨.runner _ (.log e), _⟩ => some e
  | _ => none

def runnerEvents (t : List (Exchange Request Request.Reply)) : List Event :=
  t.filterMap runnerEvent?

section

variable {twins : Command → Command → Prop} {t t' : List (Exchange Request Request.Reply)}

theorem seen_eq (h : List.Forall₂ (likeness twins).Exchanged t t') : seen t = seen t' := by
  rw [← List.forall₂_eq_eq_eq]
  refine Likeness.forall₂_filterMap h fun q q' r r' hq ↦ ?_
  cases hq with
  | runner => exact .none
  | check hq =>
    have hcheck : Check.Asked twins _ _ := .same hq
    exact Check.seen?_rel r r' hcheck

theorem runnerEvents_sameButTime (h : List.Forall₂ (likeness twins).Exchanged t t') :
    List.Forall₂ Children.SameButTime (runnerEvents t) (runnerEvents t') := by
  refine Likeness.forall₂_filterMap h fun q q' r r' hq ↦ ?_
  cases hq with
  | check => exact .none
  | runner htwins hq =>
    cases hq with
    | log he => exact .some he
    | stopping | launch | await | kill | reap => exact .none

end

end Interruption

/-- Settings that nobody can tell apart who does not look at the key. -/
structure Indistinct (s s' : Settings) (key key' : Bytes) : Prop where
  summary : s.summary = s'.summary
  ingest : (Plan.ingestCommand s key).displayLine = (Plan.ingestCommand s' key').displayLine
  diff : (Plan.diffCommand s).displayLine = (Plan.diffCommand s').displayLine
  copy : (Plan.copyCommand s).displayLine = (Plan.copyCommand s').displayLine
  announce : (Plan.ofSettings s key).announce = (Plan.ofSettings s' key').announce
  checked (dryRun : Bool) (w w' : Responder Check.Request Check.Request.Reply) :
    (Check.likeness ((Plan.ofSettings s key).Twins (.ofSettings s' key'))).Answered w w' →
    let played := (Check.run s dryRun).play w []
    let played' := (Check.run s' dryRun).play w' []
    played.1 = played'.1 ∧ Check.seen played.2 = Check.seen played'.2
  attended (dryRun : Bool)
    (w w' : Responder Interruption.Request Interruption.Request.Reply) :
    (Interruption.likeness ((Plan.ofSettings s key).Twins (.ofSettings s' key'))).Answered w w' →
    let played := ((Check.run s dryRun).graft Interruption.serve).play w []
    let played' := ((Check.run s' dryRun).graft Interruption.serve).play w' []
    played.1 = played'.1 ∧ Interruption.seen played.2 = Interruption.seen played'.2 ∧
      List.Forall₂ Children.SameButTime (Interruption.runnerEvents played.2)
        (Interruption.runnerEvents played'.2)

theorem withKey_indistinct (s : Settings) {key key' : Bytes} (hne : key ≠ []) (hne' : key' ≠ [])
    (h : (s.withKey key).Hides key) (h' : (s.withKey key').Hides key') :
    Indistinct (s.withKey key) (s.withKey key') key key' := by
  have hingest := Plan.shownAlike_ingestCommand hne hne' h h'
  have hshown (c c' : Command) (htwins : (Plan.ofSettings (s.withKey key) key).Twins
      (.ofSettings (s.withKey key') key') c c') : c.ShownAlike c' := by
    cases htwins with
    | ingest => exact hingest
    | diff | copy => exact .refl _
  have hannounce : (Plan.ofSettings (s.withKey key) key).announce =
      (Plan.ofSettings (s.withKey key') key').announce := by
    simp only [Plan.announce, Plan.steps, List.map_cons, List.map_nil,
      (hshown _ _ .ingest).displayLine, (hshown _ _ .diff).displayLine,
      (hshown _ _ .copy).displayLine]
  exact {
    summary := rfl
    ingest := hingest.displayLine
    diff := rfl
    copy := rfl
    announce := hannounce
    checked := fun dryRun w w' hw ↦ by
      obtain ⟨hresult, ht⟩ := (Check.run_alike s key key' dryRun hannounce).play hw
      exact ⟨hresult, Check.seen_eq ht⟩
    attended := fun dryRun w w' hw ↦ by
      have halike := (Check.run_alike s key key' dryRun hannounce).graft
        (Interruption.serve_alike hshown)
      obtain ⟨hresult, ht⟩ := halike.play hw
      exact ⟨hresult, Interruption.seen_eq ht, Interruption.runnerEvents_sameButTime ht⟩ }

/-- If surroundings differ in nothing but the value of the credential, and neither value occurs in
another word of its ingest command, they lead to the same error or to settings that cannot be told
apart. -/
theorem credential_noninterference {case : Case} (o : Overrides) {e e' : Surroundings}
    {key key' : Bytes} (hown : case.credentialVariable ∉ Settings.ownVariables)
    (h : e.AgreeBut case.credentialVariable e')
    (hkey : e.value? case.credentialVariable = some key) (hne : key ≠ [])
    (hkey' : e'.value? case.credentialVariable = some key') (hne' : key' ≠ [])
    (hhides : ∀ s, Settings.resolve case e o = .ok s → s.Hides key)
    (hhides' : ∀ s, Settings.resolve case e' o = .ok s → s.Hides key') :
    (∃ error, Settings.resolve case e o = .error error ∧
      Settings.resolve case e' o = .error error) ∨
    ∃ s s', Settings.resolve case e o = .ok s ∧ Settings.resolve case e' o = .ok s' ∧
      Indistinct s s' key key' := by
  have hread {e : Surroundings} {key : Bytes}
      (hkey : e.value? case.credentialVariable = some key) (hne : key ≠ []) :
      e.nonEmpty? case.credentialVariable = some key := by
    simp [Surroundings.nonEmpty?, hkey, hne]
  have hresolve := Settings.resolve_eq h hown (hread hkey hne) o
  have hresolve' := Settings.resolve_eq (.refl e') hown (hread hkey' hne') o
  cases hs : Settings.resolve case e' o with
  | error error =>
    rw [hs] at hresolve
    exact .inl ⟨error, hresolve, rfl⟩
  | ok s =>
    rw [hs] at hresolve hresolve'
    have hs' : s = s.withKey key' := Except.ok.inj hresolve'
    refine .inr ⟨s.withKey key, s, hresolve, rfl, ?_⟩
    have hindistinct := withKey_indistinct s hne hne' (hhides _ hresolve) (hs' ▸ hhides' s hs)
    rwa [← hs'] at hindistinct

def exampleCase : Case := { Case.octoai with metadataExclude := ["coordinates"] }

def exampleSurroundings (key : Bytes) : Surroundings where
  value? name := if name = exampleCase.credentialVariable then some key else none
  processors := 4
  executableDirectory := .ok "/repo/e2e"
  currentDirectory := .ok "/repo"

theorem credential_noninterference_starred :
    ∃ s s', Settings.resolve exampleCase (exampleSurroundings "s3cret") {} = .ok s ∧
      Settings.resolve exampleCase (exampleSurroundings "it's *") {} = .ok s' ∧
      Indistinct s s' "s3cret" "it's *" := by
  have hagree (key key' : Bytes) : (exampleSurroundings key).AgreeBut
      exampleCase.credentialVariable (exampleSurroundings key') :=
    ⟨fun n hn ↦ by simp [exampleSurroundings, hn], rfl, rfl, rfl⟩
  -- a character of the key that stands in none of the other words
  have hhides {key : Bytes} (c : Char) (hc : c ∈ Utf8.lossy key)
      (h : ∀ s ∈ (Settings.resolve exampleCase (exampleSurroundings key) {}).toOption,
        ∀ word ∈ (Plan.ingestCommand s key).words.dropLast, c ∉ Utf8.lossy word)
      (s : Settings) (hs : Settings.resolve exampleCase (exampleSurroundings key) {} = .ok s) :
      s.Hides key := by
    intro word hword hinfix
    exact h s (by rw [hs]; rfl) word hword (List.IsInfix.mem hc hinfix)
  have hfound :
      (Settings.resolve exampleCase (exampleSurroundings "s3cret") {}).toOption.isSome := by
    decide +kernel
  rcases credential_noninterference {} (by decide) (hagree "s3cret" "it's *") rfl (by decide) rfl
    (by decide) (hhides '3' (by decide) (by decide +kernel))
    (hhides '*' (by decide) (by decide +kernel)) with ⟨error, herror, -⟩ | h
  · rw [herror] at hfound
    exact absurd hfound Bool.false_ne_true
  · exact h

end IngestCheck
