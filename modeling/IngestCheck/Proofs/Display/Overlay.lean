import Mathlib.Data.List.Basic
import Mathlib.Data.List.Infix

namespace IngestCheck

variable {α : Type} {marks x x' y y' : List α}

/-- The first list is the second with each of some stretches, empty ones too, under one or more
marks. -/
inductive Overlaid (marks : List α) : List α → List α → Prop
  | nil : Overlaid marks [] []
  | keep (a : α) {x y : List α} : Overlaid marks y x → Overlaid marks (a :: y) (a :: x)
  | cover {m : α} (hm : m ∈ marks) (cut : List α) {x y : List α} :
    Overlaid marks y x → Overlaid marks (m :: y) (cut ++ x)

namespace Overlaid

theorem refl (x : List α) : Overlaid marks x x := by
  induction x with
  | nil => exact .nil
  | cons a x ih => exact ih.keep a

theorem append (h : Overlaid marks y x) (h' : Overlaid marks y' x') :
    Overlaid marks (y ++ y') (x ++ x') := by
  induction h with
  | nil => exact h'
  | keep a _ ih => exact ih.keep a
  | cover hm cut _ ih => simpa only [List.append_assoc, List.cons_append] using ih.cover hm cut

theorem insert {mask : List α} (hmask : mask ⊆ marks) (h : Overlaid marks y x) :
    Overlaid marks (mask ++ y) x := by
  induction mask with
  | nil => exact h
  | cons m mask ih =>
    obtain ⟨hm, hmask⟩ := List.cons_subset.mp hmask
    exact (ih hmask).cover hm []

theorem conceal {mask : List α} (hne : mask ≠ []) (hmask : mask ⊆ marks) (cut : List α)
    (h : Overlaid marks y x) : Overlaid marks (mask ++ y) (cut ++ x) := by
  obtain ⟨m, mask, rfl⟩ := List.exists_cons_of_ne_nil hne
  obtain ⟨hm, hmask⟩ := List.cons_subset.mp hmask
  exact (h.insert hmask).cover hm cut

theorem not_prefix_of_mark {u : List α} (hu : u ≠ []) (hfree : u.Disjoint marks) {m : α}
    (hm : m ∈ marks) : ¬ u <+: m :: y := by
  obtain ⟨a, u, rfl⟩ := List.exists_cons_of_ne_nil hu
  intro h
  obtain ⟨rfl, -⟩ := List.cons_prefix_cons.mp h
  exact hfree List.mem_cons_self hm

theorem isPrefix (h : Overlaid marks y x) {u : List α} (hfree : u.Disjoint marks) (hu : u <+: y) :
    u <+: x := by
  induction h generalizing u with
  | nil => exact hu
  | keep a _ ih =>
    cases u with
    | nil => exact List.nil_prefix
    | cons b u =>
      obtain ⟨rfl, htail⟩ := List.cons_prefix_cons.mp hu
      have hfree' : u.Disjoint marks := (List.disjoint_cons_left.mp hfree).2
      exact List.cons_prefix_cons.mpr ⟨rfl, ih hfree' htail⟩
  | cover hm cut _ _ =>
    cases u with
    | nil => exact List.nil_prefix
    | cons b u => exact absurd hu (not_prefix_of_mark (List.cons_ne_nil b u) hfree hm)

theorem isInfix (h : Overlaid marks y x) {u : List α} (hne : u ≠ []) (hfree : u.Disjoint marks)
    (hu : u <:+: y) : u <:+: x := by
  induction h with
  | nil => exact hu
  | keep a h ih =>
    rcases List.infix_cons_iff.mp hu with hu | hu
    · exact ((h.keep a).isPrefix hfree hu).isInfix
    · exact List.infix_cons (ih hu)
  | cover hm cut _ ih =>
    rcases List.infix_cons_iff.mp hu with hu | hu
    · exact absurd hu (not_prefix_of_mark hne hfree hm)
    · exact List.infix_append_of_infix_right (ih hu)

end Overlaid

theorem exists_infix_of_infix_intercalate {u : List α} {m : α} (hne : u ≠ []) (hm : m ∉ u)
    {words : List (List α)} (hu : u <:+: List.intercalate [m] words) : ∃ w ∈ words, u <:+: w := by
  have hfree : u.Disjoint [m] := List.disjoint_singleton.mpr hm
  induction words with
  | nil => exact absurd (List.infix_nil.mp (by simpa using hu)) hne
  | cons w words ih =>
    cases words with
    | nil => exact ⟨w, List.mem_singleton_self w, by simpa using hu⟩
    | cons w' words =>
      rw [List.intercalate_cons_cons, List.append_assoc, List.singleton_append,
        List.infix_append_iff] at hu
      rcases hu with hu | hu | ⟨u₁, u₂, rfl, hu₁, hu₂⟩
      · exact ⟨w, List.mem_cons_self, hu⟩
      · rcases List.infix_cons_iff.mp hu with hu | hu
        · exact absurd hu (Overlaid.not_prefix_of_mark hne hfree (List.mem_singleton_self m))
        · obtain ⟨w'', hw'', hu⟩ := ih hu
          exact ⟨w'', List.mem_cons_of_mem w hw'', hu⟩
      · cases u₂ with
        | nil => exact ⟨w, List.mem_cons_self, by simpa using hu₁.isInfix⟩
        | cons a u₂ =>
          obtain ⟨rfl, -⟩ := List.cons_prefix_cons.mp hu₂
          simp at hm

end IngestCheck
