import IngestCheck.Proofs.Script.Monitor

namespace IngestCheck

variable {ρ : Type} {reply : ρ → Type} {σ α β : Type}

def Responder.AgreeOn (kind : ρ → Prop) (w w' : Responder ρ reply) : Prop :=
  ∀ past : List (Exchange ρ reply), (∀ e ∈ past, kind e.1) → ∀ q, kind q → w past q = w' past q

/-- Some exchanges with somebody who has a state, from one state to another. -/
def Served (answer : (q : ρ) → StateM σ (reply q)) : σ → List (Exchange ρ reply) → σ → Prop
  | s, [], s' => s' = s
  | s, e :: t, s' => (answer e.1 s).1 = e.2 ∧ Served answer (answer e.1 s).2 t s'

theorem served_append {answer : (q : ρ) → StateM σ (reply q)} {s s' : σ}
    {t t' : List (Exchange ρ reply)} : Served answer s (t ++ t') s' ↔
      ∃ between, Served answer s t between ∧ Served answer between t' s' := by
  induction t generalizing s with
  | nil => exact ⟨fun h ↦ ⟨s, rfl, h⟩, fun ⟨between, hnil, h⟩ ↦ hnil ▸ h⟩
  | cons e t ih =>
    constructor
    · rintro ⟨hreply, h⟩
      obtain ⟨between, ht, ht'⟩ := ih.mp h
      exact ⟨between, ⟨hreply, ht⟩, ht'⟩
    · rintro ⟨between, ⟨hreply, ht⟩, ht'⟩
      exact ⟨hreply, ih.mpr ⟨between, ht, ht'⟩⟩

theorem Served.eq_append {w : Responder ρ reply} {past past' t : List (Exchange ρ reply)}
    (h : Served w.answer past t past') : past' = past ++ t := by
  induction t generalizing past with
  | nil => rw [List.append_nil, h]
  | cons e t ih =>
    obtain ⟨q, r⟩ := e
    obtain ⟨hreply, h⟩ := h
    obtain rfl : w past q = r := hreply
    rw [ih h]
    exact List.append_assoc past [_] t

namespace Script

theorem run_bind (answer : (q : ρ) → StateM σ (reply q)) (p : Script ρ reply α)
    (f : α → Script ρ reply β) (s : σ) :
    (p.bind f).run answer s = (f (p.run answer s).1).run answer (p.run answer s).2 := by
  induction p generalizing s with
  | done a => rfl
  | ask q next ih => exact ih _ _

theorem play_bind (w : Responder ρ reply) (p : Script ρ reply α) (f : α → Script ρ reply β)
    (past : List (Exchange ρ reply)) :
    (p.bind f).play w past = (f (p.play w past).1).play w (p.play w past).2 :=
  run_bind w.answer p f past

/-- Whatever is replied, the end and all that passes up to it are as wanted. -/
def Ensures : Script ρ reply α → (α → List (Exchange ρ reply) → Prop) → Prop
  | done a, post => post a []
  | ask q next, post => ∀ r, (next r).Ensures fun a t ↦ post a (⟨q, r⟩ :: t)

theorem Ensures.mono {post post' : α → List (Exchange ρ reply) → Prop} {p : Script ρ reply α}
    (h : p.Ensures post) (hpost : ∀ a t, post a t → post' a t) : p.Ensures post' := by
  induction p generalizing post post' with
  | done a => exact hpost a [] h
  | ask q next ih => exact fun r ↦ ih r (h r) fun a t ↦ hpost a (⟨q, r⟩ :: t)

theorem Ensures.bind {post : β → List (Exchange ρ reply) → Prop} {p : Script ρ reply α}
    {f : α → Script ρ reply β}
    (h : p.Ensures fun a t ↦ (f a).Ensures fun b t' ↦ post b (t ++ t')) :
    (p.bind f).Ensures post := by
  induction p generalizing post with
  | done a => exact h
  | ask q next ih => exact fun r ↦ ih r (h r)

theorem Ensures.served {post : α → List (Exchange ρ reply) → Prop} {p : Script ρ reply α}
    (h : p.Ensures post) (answer : (q : ρ) → StateM σ (reply q)) (s : σ) :
    ∃ t, post (p.run answer s).1 t ∧ Served answer s t (p.run answer s).2 := by
  induction p generalizing post s with
  | done a => exact ⟨[], h, rfl⟩
  | ask q next ih =>
    obtain ⟨t, hpost, hserved⟩ := ih _ (h _) (answer q s).2
    exact ⟨_, hpost, rfl, hserved⟩

theorem Ensures.play {post : α → List (Exchange ρ reply) → Prop} {p : Script ρ reply α}
    (h : p.Ensures post) (w : Responder ρ reply) (past : List (Exchange ρ reply)) :
    ∃ t, (p.play w past).2 = past ++ t ∧ post (p.play w past).1 t := by
  obtain ⟨t, hpost, hserved⟩ := h.served w.answer past
  exact ⟨t, hserved.eq_append, hpost⟩

def Asks (kind : ρ → Prop) : Script ρ reply α → Prop
  | done _ => True
  | ask q next => kind q ∧ ∀ r, (next r).Asks kind

variable {kind : ρ → Prop}

theorem request_asks {q : ρ} (hq : kind q) : (request q : Script ρ reply (reply q)).Asks kind :=
  ⟨hq, fun _ ↦ trivial⟩

theorem Asks.bind {p : Script ρ reply α} {f : α → Script ρ reply β} (h : p.Asks kind)
    (hf : ∀ a, (f a).Asks kind) : (p.bind f).Asks kind := by
  induction p with
  | done a => exact hf a
  | ask q next ih => exact ⟨h.1, fun r ↦ ih r (h.2 r)⟩

theorem Asks.ensures {p : Script ρ reply α} (h : p.Asks kind) :
    p.Ensures fun _ t ↦ ∀ e ∈ t, kind e.1 := by
  induction p with
  | done a => exact fun _ he ↦ absurd he List.not_mem_nil
  | ask q next ih =>
    exact fun r ↦ (ih r (h.2 r)).mono fun _ _ ht ↦ List.forall_mem_cons.mpr ⟨h.1, ht⟩

theorem Asks.play_eq {p : Script ρ reply α} (h : p.Asks kind) {w w' : Responder ρ reply}
    (hw : w.AgreeOn kind w') {past : List (Exchange ρ reply)} (hpast : ∀ e ∈ past, kind e.1) :
    p.play w past = p.play w' past := by
  induction p generalizing past with
  | done a => rfl
  | ask q next ih =>
    rw [play_ask, play_ask, hw past hpast q h.1]
    refine ih _ (h.2 _) fun e he ↦ ?_
    rcases List.mem_append.mp he with he | he
    · exact hpast e he
    · rw [List.mem_singleton.mp he]
      exact h.1

end Script

end IngestCheck
