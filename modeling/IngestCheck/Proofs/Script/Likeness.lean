import IngestCheck.Proofs.Script.Monitor
import Mathlib.Data.List.Forall2

namespace IngestCheck

variable {ρ : Type} {reply : ρ → Type} {α α' β β' : Type}

/-- Which questions are like each other, and which replies to them. -/
structure Likeness (ρ : Type) (reply : ρ → Type) where
  asked : ρ → ρ → Prop
  replied : (q q' : ρ) → reply q → reply q' → Prop

def Likeness.Exchanged (l : Likeness ρ reply) (e e' : Exchange ρ reply) : Prop :=
  l.asked e.1 e'.1 ∧ l.replied e.1 e'.1 e.2 e'.2

/-- Two responders who, after like exchanges, answer like questions alike. -/
def Likeness.Answered (l : Likeness ρ reply) (w w' : Responder ρ reply) : Prop :=
  ∀ past past', List.Forall₂ l.Exchanged past past' →
    ∀ q q', l.asked q q' → l.replied q q' (w past q) (w' past' q')

namespace Script

/-- Like replies keep two scripts alike, and their ends are related. -/
inductive Alike (l : Likeness ρ reply) (post : α → α' → Prop) :
    Script ρ reply α → Script ρ reply α' → Prop
  | done {a : α} {a' : α'} (h : post a a') : Alike l post (done a) (done a')
  | ask {q q' : ρ} {next : reply q → Script ρ reply α} {next' : reply q' → Script ρ reply α'}
    (hq : l.asked q q') (hnext : ∀ r r', l.replied q q' r r' → Alike l post (next r) (next' r')) :
    Alike l post (ask q next) (ask q' next')

variable {l : Likeness ρ reply} {post : α → α' → Prop} {p : Script ρ reply α}
  {p' : Script ρ reply α'}

theorem alike_request {q q' : ρ} (h : l.asked q q') :
    (request q).Alike l (l.replied q q') (request q') := .ask h fun _ _ hr ↦ .done hr

theorem Alike.bind {mid : β → β' → Prop} {p : Script ρ reply β} {p' : Script ρ reply β'}
    {f : β → Script ρ reply α} {f' : β' → Script ρ reply α'} (h : p.Alike l mid p')
    (hf : ∀ b b', mid b b' → (f b).Alike l post (f' b')) :
    (p.bind f).Alike l post (p'.bind f') := by
  induction h with
  | done h => exact hf _ _ h
  | ask hq _ ih => exact .ask hq ih

theorem Alike.bind_same {p p' : Script ρ reply β} {f : β → Script ρ reply α}
    {f' : β → Script ρ reply α'} (h : p.Alike l Eq p')
    (hf : ∀ b, (f b).Alike l post (f' b)) : (p.bind f).Alike l post (p'.bind f') := by
  refine h.bind fun b b' hb ↦ ?_
  subst hb
  exact hf b

theorem Alike.playFrom (h : p.Alike l post p') {w w' : Responder ρ reply} (hw : l.Answered w w')
    {past past' : List (Exchange ρ reply)} (hpast : List.Forall₂ l.Exchanged past past') :
    post (p.play w past).1 (p'.play w' past').1 ∧
      List.Forall₂ l.Exchanged (p.play w past).2 (p'.play w' past').2 := by
  induction h generalizing past past' with
  | done h => exact ⟨h, hpast⟩
  | @ask q q' next next' hq _ ih =>
    have hr := hw past past' hpast q q' hq
    rw [play_ask, play_ask]
    exact ih _ _ hr (List.rel_append hpast (.cons ⟨hq, hr⟩ .nil))

theorem Alike.play (h : p.Alike l post p') {w w' : Responder ρ reply} (hw : l.Answered w w') :
    post (p.play w []).1 (p'.play w' []).1 ∧
      List.Forall₂ l.Exchanged (p.play w []).2 (p'.play w' []).2 := h.playFrom hw .nil

/-- Scripts stay alike when the scripts that answer their questions are alike. -/
theorem Alike.graft {ρ' : Type} {reply' : ρ' → Type} {l' : Likeness ρ' reply'}
    {answer answer' : (q : ρ) → Script ρ' reply' (reply q)}
    (hanswer : ∀ q q', l.asked q q' → (answer q).Alike l' (l.replied q q') (answer' q'))
    (h : p.Alike l post p') : (p.graft answer).Alike l' post (p'.graft answer') := by
  induction h with
  | done h => exact .done h
  | @ask q q' next next' hq _ ih => exact (hanswer q q' hq).bind fun r r' hr ↦ ih r r' hr

end Script

end IngestCheck
