import IngestCheck.Proofs.Interruption.Discipline

namespace IngestCheck.Interruption

def Move.exchange? : Move → Option (Exchange Request Request.Reply)
  | .exchange e => some e
  | _ => none

def watched (t : List Move) : Watch := watch.after {} (t.filterMap Move.exchange?)

theorem watched_exchange (t : List Move) (q : Request) (r : q.Reply) :
    watched (t ++ [.exchange ⟨q, r⟩]) = watch.next (watched t) q r := by
  simp [watched, Monitor.after, Move.exchange?]

theorem watched_other (t : List Move) {m : Move} (hm : m.exchange? = none) :
    watched (t ++ [m]) = watched t := by
  simp [watched, hm]

section

variable {w w' : World} {q : Request} {r : q.Reply} {v : Watch}

theorem World.Replies.flag_eq (h : w.Replies q r w') : w'.flag = w.flag := by cases h <;> rfl

theorem World.Replies.length_children (h : w.Replies q r w') (hq : watch.allows v q)
    (hv : w.children.length = v.child.toNat) :
    w'.children.length = (watch.next v q r).child.toNat := by
  cases h with
  | host r hrun => simpa only [watch_next_check] using hv
  | noted | refused | stopped | missed | spared => exact hv
  | flagRead c => cases hflag : w.flag <;> exact hv
  | launched c c' =>
    obtain ⟨-, -, -, hchild⟩ : _ ∧ _ ∧ _ ∧ v.child = false := hq
    simpa [watch, hchild] using hv
  | ended c elapsed hgone =>
    have hchild : v.child = true := hq
    simpa [watch, hchild, hgone] using hv
  | struck c hrunning => simpa [watch, hrunning] using hv
  | reaped c hgone =>
    have hchild : v.child = true := hq.1
    simpa [watch, hchild, hgone] using hv

theorem World.Replies.stopSeen (h : w.Replies q r w') (hseen : (watch.next v q r).stopSeen = true) :
    v.stopSeen = true ∨ w.flag = true := by
  cases h with
  | flagRead c =>
    cases hflag : w.flag with
    | false => exact .inl (by simpa [watch, hflag] using hseen)
    | true => exact .inr rfl
  | stopped c hflag => exact .inr hflag
  | host r hrun => exact .inl (by simpa only [watch_next_check] using hseen)
  | _ => exact .inl hseen

end

structure Sound (s : Settings) (key : Bytes) (t : List Move) (st : State) : Prop where
  obeys : st.program.Obeys watch (Concluded s key) (watched t)
  children : st.world.children.length = (watched t).child.toNat
  flag : st.world.flag = true ↔ .set ∈ t
  stopSeen : (watched t).stopSeen = true → .set ∈ t

section

variable {s : Settings} {key : Bytes} {t : List Move} {st st' : State}

theorem sound_initial (hkey : s.apiKey? = some key) : Sound s key [] (initial s) where
  obeys := program_obeys hkey
  children := rfl
  flag := by simp [initial]
  stopSeen := by simp [watched, Monitor.after]

theorem Sound.world_move {p : Program Result} {w w' : World} {m : Move} (h : Sound s key t ⟨p, w⟩)
    (hm : m.exchange? = none) (hchildren : w'.children.length = w.children.length)
    (hflag : w'.flag = true ↔ m = .set ∨ w.flag = true) : Sound s key (t ++ [m]) ⟨p, w'⟩ where
  obeys := by simpa only [watched_other t hm] using h.obeys
  children := by simpa only [watched_other t hm, hchildren] using h.children
  flag := by
    rw [hflag, show w.flag = true ↔ .set ∈ t from h.flag]
    simp [or_comm, eq_comm]
  stopSeen := fun hseen ↦ List.mem_append_left _ (h.stopSeen (by rwa [watched_other t hm] at hseen))

theorem Sound.exchange {q : Request} {next : q.Reply → Program Result} {w w' : World} {r : q.Reply}
    (h : Sound s key t ⟨.ask q next, w⟩) (hr : w.Replies q r w') :
    Sound s key (t ++ [.exchange ⟨q, r⟩]) ⟨next r, w'⟩ where
  obeys := by simpa only [watched_exchange] using h.obeys.2 r
  children := by simpa only [watched_exchange] using hr.length_children h.obeys.1 h.children
  flag := by
    rw [hr.flag_eq, show w.flag = true ↔ .set ∈ t from h.flag]
    simp
  stopSeen := fun hseen ↦ by
    rw [watched_exchange] at hseen
    rcases hr.stopSeen hseen with hseen | hflag
    · exact List.mem_append_left _ (h.stopSeen hseen)
    · exact List.mem_append_left _ (h.flag.mp hflag)

theorem Sound.step {m : Move} (h : Sound s key t st) (hs : Step st m st') :
    Sound s key (t ++ [m]) st' := by
  cases hs with
  | set => exact h.world_move rfl rfl (by simp)
  | drop => exact h.world_move rfl rfl (by simp)
  | exit p before ending hchild => exact h.world_move rfl (by simp [hchild]) (by simp)
  | exchange hr => exact h.exchange hr

theorem Execution.sound (hkey : s.apiKey? = some key) (h : Execution (initial s) t st) :
    Sound s key t st := by
  induction h with
  | nil => exact sound_initial hkey
  | step _ hs ih => exact ih.step hs

end

section

variable {s : Settings} {key : Bytes} {before after t : List Move} {st : State} {c : Command}

theorem Execution.allowed (hkey : s.apiKey? = some key) {q : Request} {r : q.Reply}
    (h : Execution (initial s) (before ++ .exchange ⟨q, r⟩ :: after) st) :
    watch.allows (watched before) q := by
  obtain ⟨st₁, st₂, h₁, hs, -⟩ := h.split_cons
  cases hs with
  | exchange hr => exact (h₁.sound hkey).obeys.1

theorem Execution.flag_read (hkey : s.apiKey? = some key) {found : Bool}
    (h : Execution (initial s) (before ++ .exchange ⟨.runner c .stopping, found⟩ :: after) st) :
    found = true ↔ .set ∈ before := by
  obtain ⟨st₁, st₂, h₁, hs, -⟩ := h.split_cons
  cases hs with
  | exchange hr =>
    cases hr with
    | flagRead => exact (h₁.sound hkey).flag

theorem watch_next_heldBack {w : Watch} (hw : w.heldBack = true) (q : Request) (r : q.Reply) :
    (watch.next w q r).heldBack = true := by
  unfold watch
  dsimp only
  split
  · rfl
  all_goals exact hw

theorem watched_heldBack (h : (watched before).heldBack = true) (t : List Move) :
    (watched (before ++ t)).heldBack = true := by
  induction t using List.reverseRecOn with
  | nil => simpa using h
  | append_singleton t m ih =>
    rw [← List.append_assoc]
    cases m with
    | exchange e => rw [watched_exchange]; exact watch_next_heldBack ih e.1 e.2
    | set | drop | exit => rwa [watched_other _ rfl]

theorem mem_watch_next_cleared {w : Watch} {q : Request} {r : q.Reply}
    (h : c ∈ (watch.next w q r).cleared) :
    c ∈ w.cleared ∨ (⟨q, r⟩ : Exchange Request Request.Reply) = ⟨.runner c .stopping, false⟩ := by
  unfold watch at h
  dsimp only at h
  split at h
  · exact .inl h
  · rcases List.mem_append.mp h with h | h
    · exact .inl h
    · obtain rfl := List.mem_singleton.mp h
      exact .inr rfl
  all_goals exact .inl h

theorem mem_of_mem_cleared (h : c ∈ (watched t).cleared) :
    .exchange ⟨.runner c .stopping, false⟩ ∈ t := by
  induction t using List.reverseRecOn with
  | nil => simp [watched, Monitor.after] at h
  | append_singleton t m ih =>
    cases m with
    | exchange e =>
      rw [watched_exchange] at h
      rcases mem_watch_next_cleared h with h | h
      · exact List.mem_append_left _ (ih h)
      · obtain ⟨q, r⟩ := e
        rw [h]
        simp
    | set | drop | exit =>
      rw [watched_other _ rfl] at h
      exact List.mem_append_left _ (ih h)

theorem false_of_crossed {α : Type} {x y : α} {l₁ l₂ l₃ l₄ : List α} (hne : x ≠ y)
    (h : l₁ ++ x :: l₂ = l₃ ++ y :: l₄) (hx : x ∉ l₃) (hy : y ∉ l₁) : False := by
  rcases List.append_eq_append_iff.mp h with ⟨l, rfl, htail⟩ | ⟨l, rfl, htail⟩
  · cases l with
    | nil => exact hne (List.cons.inj htail).1
    | cons z l =>
      obtain rfl := (List.cons.inj htail).1
      simp at hx
  · cases l with
    | nil => exact hne (List.cons.inj htail).1.symm
    | cons z l =>
      obtain rfl := (List.cons.inj htail).1
      simp at hy

theorem Execution.not_launched (hkey : s.apiKey? = some key) {found : Bool}
    (h : Execution (initial s) (before ++ .exchange ⟨.runner c .stopping, found⟩ :: after) st)
    (hset : .set ∈ before) (c' c'' : Command) (r : Except HostError Unit) :
    .exchange ⟨.runner c' (.launch c''), r⟩ ∉ after := by
  intro hlaunch
  obtain rfl : found = true := (h.flag_read hkey).mpr hset
  obtain ⟨a, b, rfl⟩ := List.append_of_mem hlaunch
  have hheld : (watched (before ++ [.exchange ⟨.runner c .stopping, true⟩])).heldBack = true := by
    rw [watched_exchange]
    rfl
  rw [List.append_cons, ← List.append_assoc] at h
  have hallowed := h.allowed hkey
  have hfree := hallowed.2.2.1
  rw [watched_heldBack hheld a] at hfree
  exact Bool.noConfusion hfree

theorem Execution.heeded (hkey : s.apiKey? = some key) {r : Result} {w : World}
    (h : Execution (initial s) (before ++ .set :: after) ⟨.done r, w⟩)
    (hcheck : ∀ found,
      .exchange ⟨.runner (Plan.ofSettings s key).copy .stopping, found⟩ ∉ before) :
    r = .error .interrupted ∨ OfIngest r := by
  have hend : Concluded s key r _ := (h.sound hkey).obeys
  rcases hend.cleared with hr | hr | hcleared
  · exact .inl hr
  · exact .inr hr
  · obtain ⟨a, b, hab⟩ := List.append_of_mem (mem_of_mem_cleared hcleared)
    rw [hab] at h
    have hunset : .set ∉ a := fun hset ↦ by simpa using (h.flag_read hkey).mpr hset
    exact (false_of_crossed (by simp) hab.symm (hcheck false) hunset).elim

/-- A check that has not returned can go on, if need be once its child has ended. -/
theorem Execution.progress (hkey : s.apiKey? = some key) {q : Request}
    {next : q.Reply → Program Result} {w : World} (h : Execution (initial s) t ⟨.ask q next, w⟩) :
    ∃ m st, Step ⟨.ask q next, w⟩ m st := by
  have hsound := h.sound hkey
  have hallowed : watch.allows (watched t) q := hsound.obeys.1
  have hchild (hwatched : (watched t).child = true) : ∃ child, w.children = [child] := by
    have hlength : w.children.length = (watched t).child.toNat := hsound.children
    rw [hwatched] at hlength
    exact List.length_eq_one_iff.mp hlength
  cases q with
  | check q =>
    have hq (c : Command) : q ≠ .run c := by rintro rfl; exact hallowed
    have r : q.Reply := by
      cases q with
      | log | print => exact ()
      | run => exact .error .interrupted
      | present => exact true
      | remove => exact .ok ()
    exact ⟨_, _, .exchange (.host w r hq)⟩
  | runner c q =>
    cases q with
    | log e => exact ⟨_, _, .exchange (.noted w c e)⟩
    | stopping => exact ⟨_, _, .exchange (.flagRead w c)⟩
    | launch c' => exact ⟨_, _, .exchange (.launched w c c')⟩
    | await =>
      obtain ⟨child, hw⟩ := hchild hallowed
      cases child with
      | gone ending => exact ⟨_, _, .exchange (.ended c 0 hw)⟩
      | running | struck => exact ⟨_, _, .exit _ [] (.exited 0) hw rfl⟩
    | kill => exact ⟨_, _, .exchange (.spared w c .nulByte)⟩
    | reap =>
      obtain ⟨child, hw⟩ := hchild hallowed.1
      cases child with
      | gone ending => exact ⟨_, _, .exchange (.reaped c hw)⟩
      | running | struck => exact ⟨_, _, .exit _ [] (.killed 9) hw rfl⟩

end

/-- What holds after any moves of a check with its runner. -/
structure Safe (s : Settings) (key : Bytes) (t : List Move) (st : State) : Prop where
  alive_le_one : st.world.alive ≤ 1
  looking (path : Path) (next : Bool → Program Result) :
    st.program = .ask (.check (.present path)) next → st.world.alive = 0
  removing (path : Path) (next : Except HostError Unit → Program Result) :
    st.program = .ask (.check (.remove path)) next → st.world.alive = 0
  returned (r : Result) : st.program = .done r → st.world.alive = 0
  not_launched (before after : List Move) (c : Command) (found : Bool) :
    t = before ++ .exchange ⟨.runner c .stopping, found⟩ :: after → .set ∈ before →
    ∀ c' c'' r, .exchange ⟨.runner c' (.launch c''), r⟩ ∉ after
  launched (before after : List Move) (c c' : Command) (r : Except HostError Unit) :
    t = before ++ .exchange ⟨.runner c (.launch c'), r⟩ :: after →
    c' = c ∧ .exchange ⟨.runner c .stopping, false⟩ ∈ before
  heeded (before after : List Move) (r : Result) : t = before ++ .set :: after →
    (∀ found, .exchange ⟨.runner (Plan.ofSettings s key).copy .stopping, found⟩ ∉ before) →
    st.program = .done r → r = .error .interrupted ∨ OfIngest r
  justified : st.program = .done (.error .interrupted) → .set ∈ t

theorem World.alive_le (w : World) : w.alive ≤ w.children.length := List.length_filter_le _ _

/-- Whenever the flag is set or its sender dropped, and whatever children do, a check with a
credential is safe. -/
theorem interruption_safe {s : Settings} {key : Bytes} (hkey : s.apiKey? = some key) {t : List Move}
    {st : State} (h : Execution (initial s) t st) : Safe s key t st := by
  have hsound := h.sound hkey
  have hcount : st.world.alive ≤ (watched t).child.toNat := by
    rw [← hsound.children]
    exact st.world.alive_le
  have hnone (hchild : (watched t).child = false) : st.world.alive = 0 := by
    rw [hchild] at hcount
    exact Nat.le_zero.mp hcount
  have hobeys := hsound.obeys
  obtain ⟨p, w⟩ := st
  exact {
    alive_le_one := Nat.le_trans hcount (Bool.toNat_le _)
    looking := by rintro path next rfl; exact hnone hobeys.1
    removing := by rintro path next rfl; exact hnone hobeys.1
    returned := by rintro r rfl; exact hnone (Concluded.child hobeys)
    not_launched := by rintro before after c found rfl hset; exact h.not_launched hkey hset
    launched := by
      rintro before after c c' r rfl
      obtain ⟨hc, hcleared, -, -⟩ := h.allowed hkey
      exact ⟨hc, mem_of_mem_cleared hcleared⟩
    heeded := by rintro before after r rfl hcheck rfl; exact h.heeded hkey hcheck
    justified := by rintro rfl; exact hsound.stopSeen (Concluded.stopSeen hobeys rfl) }

/-- The flag is set and its sender dropped while the first child runs. -/
theorem interruption_safe_stopped : ∃ t w,
    Execution (initial Check.exampleSettings) t ⟨.done (.error .interrupted), w⟩ ∧
      Safe Check.exampleSettings "it's a key" t ⟨.done (.error .interrupted), w⟩ := by
  have start : Execution (initial Check.exampleSettings) [] _ := .nil
  have launched := start.step (.exchange (.host _ () nofun))
    |>.step (.exchange (.host _ () nofun))
    |>.step (.exchange (.flagRead _ _))
    |>.step (.exchange (.noted _ _ _))
    |>.step (.exchange (.noted _ _ _))
    |>.step (.exchange (.noted _ _ _))
    |>.step (.exchange (.launched _ _ _))
  have stopped := launched.step (.set rfl)
    |>.step (.drop _ _)
    |>.step (.exchange (.stopped _ rfl))
    |>.step (.exchange (.noted _ _ _))
    |>.step (.exchange (.struck _ rfl))
    |>.step (.exit _ [] (.killed 9) rfl rfl)
    |>.step (.exchange (.reaped _ rfl))
  have tidied := stopped.step (.exchange (.host _ false nofun))
    |>.step (.exchange (.host _ () nofun))
    |>.step (.exchange (.host _ false nofun))
    |>.step (.exchange (.host _ () nofun))
  exact ⟨_, _, tidied, interruption_safe rfl tidied⟩

end IngestCheck.Interruption
