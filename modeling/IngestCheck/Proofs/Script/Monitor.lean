import IngestCheck.Script
import Mathlib.Data.List.Basic

namespace IngestCheck

variable {ρ : Type} {reply : ρ → Type} {σ τ α β : Type}

abbrev Exchange (ρ : Type) (reply : ρ → Type) := (q : ρ) × reply q

/-- Somebody who answers, knowing all exchanges so far. -/
abbrev Responder (ρ : Type) (reply : ρ → Type) := List (Exchange ρ reply) → (q : ρ) → reply q

def Responder.answer (w : Responder ρ reply) (q : ρ) : StateM (List (Exchange ρ reply)) (reply q) :=
  fun past ↦ (w past q, past ++ [⟨q, w past q⟩])

structure Monitor (ρ : Type) (reply : ρ → Type) (σ : Type) where
  next : σ → (q : ρ) → reply q → σ
  allows : σ → ρ → Prop

def Monitor.after (m : Monitor ρ reply σ) (s : σ) (t : List (Exchange ρ reply)) : σ :=
  t.foldl (fun s e ↦ m.next s e.1 e.2) s

namespace Script

@[simp] theorem bind_eq (p : Script ρ reply α) (f : α → Script ρ reply β) :
    p >>= f = p.bind f := rfl

@[simp] theorem pure_eq (a : α) : (pure a : Script ρ reply α) = done a := rfl

@[simp] theorem request_bind (q : ρ) (f : reply q → Script ρ reply β) :
    (request q).bind f = ask q f := rfl

def play (w : Responder ρ reply) (p : Script ρ reply α) (past : List (Exchange ρ reply)) :
    α × List (Exchange ρ reply) := (p.run w.answer).run past

theorem play_ask (w : Responder ρ reply) (q : ρ) (next : reply q → Script ρ reply α)
    (past : List (Exchange ρ reply)) :
    (ask q next).play w past = (next (w past q)).play w (past ++ [⟨q, w past q⟩]) := rfl

/-- Whatever is replied, all that is asked is allowed, and the end is as wanted. -/
def Obeys (m : Monitor ρ reply σ) (post : α → σ → Prop) : Script ρ reply α → σ → Prop
  | done a, s => post a s
  | ask q next, s => m.allows s q ∧ ∀ r, (next r).Obeys m post (m.next s q r)

variable {m : Monitor ρ reply σ}

@[simp] theorem obeys_done {post : α → σ → Prop} {a : α} {s : σ} :
    (done a : Script ρ reply α).Obeys m post s ↔ post a s := Iff.rfl

@[simp] theorem obeys_ask {post : α → σ → Prop} {q : ρ} {next : reply q → Script ρ reply α}
    {s : σ} : (ask q next).Obeys m post s ↔
      m.allows s q ∧ ∀ r, (next r).Obeys m post (m.next s q r) := Iff.rfl

theorem Obeys.mono {post post' : α → σ → Prop} {p : Script ρ reply α} {s : σ}
    (h : p.Obeys m post s) (hpost : ∀ a s, post a s → post' a s) : p.Obeys m post' s := by
  induction p generalizing s with
  | done a => exact hpost a s h
  | ask q next ih => exact ⟨h.1, fun r ↦ ih r (h.2 r)⟩

theorem Obeys.bind {mid : α → σ → Prop} {post : β → σ → Prop} {p : Script ρ reply α}
    {f : α → Script ρ reply β} {s : σ} (h : p.Obeys m mid s)
    (hf : ∀ a s, mid a s → (f a).Obeys m post s) : (p.bind f).Obeys m post s := by
  induction p generalizing s with
  | done a => exact hf a s h
  | ask q next ih => exact ⟨h.1, fun r ↦ ih r (h.2 r)⟩

theorem Obeys.playFrom {post : α → σ → Prop} {p : Script ρ reply α} {s : σ}
    {past : List (Exchange ρ reply)} (h : p.Obeys m post (m.after s past)) (w : Responder ρ reply) :
    post (p.play w past).1 (m.after s (p.play w past).2) := by
  induction p generalizing past with
  | done a => exact h
  | ask q next ih =>
    rw [play_ask]
    apply ih
    simpa only [Monitor.after, List.foldl_append, List.foldl_cons, List.foldl_nil]
      using h.2 (w past q)

/-- What a monitor has seen to is true at the end, whoever answers. -/
theorem Obeys.play {post : α → σ → Prop} {p : Script ρ reply α} {s : σ} (h : p.Obeys m post s)
    (w : Responder ρ reply) : post (p.play w []).1 (m.after s (p.play w []).2) := by
  have h' : p.Obeys m post (m.after s []) := h
  exact h'.playFrom w

/-- A monitor of the questions that another script answers by questions of its own. The relation
ties the two states together between the questions of the outer script. -/
theorem Obeys.graft {ρ' : Type} {reply' : ρ' → Type} {n : Monitor ρ' reply' τ}
    {answer : (q : ρ) → Script ρ' reply' (reply q)} {tied : σ → τ → Prop}
    (hanswer : ∀ q s t, tied s t → m.allows s q →
      (answer q).Obeys n (fun r t ↦ tied (m.next s q r) t) t)
    {post : α → σ → Prop} {p : Script ρ reply α} {s : σ} {t : τ} (h : p.Obeys m post s)
    (hst : tied s t) : (p.graft answer).Obeys n (fun a t ↦ ∃ s, post a s ∧ tied s t) t := by
  induction p generalizing s t with
  | done a => exact ⟨s, h, hst⟩
  | ask q next ih =>
    refine (hanswer q s t hst h.1).bind fun r t' ht' ↦ ?_
    exact ih r (h.2 r) ht'

end Script

end IngestCheck
