import IngestCheck.Bindings
import Mathlib.Data.List.Sort

namespace IngestCheck

theorem lookup_cons_eq (entry : String × Bytes) (rest : List (String × Bytes)) (name : String) :
    (entry :: rest).lookup name = if name = entry.1 then some entry.2 else rest.lookup name := by
  obtain ⟨first, value⟩ := entry
  by_cases h : name = first
  · simp [h]
  · simp [List.lookup_cons, beq_false_of_ne h, h]

theorem lookup_insertBinding (name : String) (value : Bytes) (entries : List (String × Bytes))
    (n : String) : (insertBinding name value entries).lookup n =
      if n = name then some value else entries.lookup n := by
  induction entries with
  | nil => rw [insertBinding, lookup_cons_eq]
  | cons entry rest ih =>
    unfold insertBinding
    split
    · rw [lookup_cons_eq]
    · split
      · rename_i heq
        subst heq
        rw [lookup_cons_eq, lookup_cons_eq]
        split <;> rfl
      · rename_i hne
        rw [lookup_cons_eq, lookup_cons_eq, ih]
        by_cases hn : n = entry.1
        · have hn' : n ≠ name := fun h ↦ hne (h.symm.trans hn)
          rw [if_pos hn, if_neg hn', if_pos hn]
        · rw [if_neg hn, if_neg hn]

theorem mem_iff_lookup {entries : List (String × Bytes)} (h : Ordered entries)
    (entry : String × Bytes) : entry ∈ entries ↔ entries.lookup entry.1 = some entry.2 := by
  induction entries with
  | nil => simp
  | cons first rest ih =>
    obtain ⟨hfirst, hrest⟩ := List.pairwise_cons.mp h
    rw [List.mem_cons, lookup_cons_eq, ih hrest]
    by_cases hname : entry.1 = first.1
    · have habsent : rest.lookup entry.1 ≠ some entry.2 := by
        intro hlookup
        have hlt := hfirst entry ((ih hrest).mpr hlookup)
        rw [hname] at hlt
        exact String.lt_irrefl _ hlt
      rw [if_pos hname, or_iff_left habsent, Option.some.injEq, Prod.ext_iff]
      exact ⟨fun heq ↦ heq.2.symm, fun heq ↦ ⟨hname, heq.symm⟩⟩
    · have hne : entry ≠ first := fun heq ↦ hname (congrArg Prod.fst heq)
      rw [if_neg hname, or_iff_right hne]

namespace Bindings

@[simp] theorem get?_empty (name : String) : (∅ : Bindings).get? name = none := rfl

theorem get?_insert (b : Bindings) (name : String) (value : Bytes) (n : String) :
    (b.insert name value).get? n = if n = name then some value else b.get? n :=
  lookup_insertBinding name value b.entries n

theorem mem_entries_iff {b : Bindings} {name : String} {value : Bytes} :
    (name, value) ∈ b.entries ↔ b.get? name = some value := mem_iff_lookup b.ordered (name, value)

theorem eq_of_get?_eq {b b' : Bindings} (h : ∀ name, b.get? name = b'.get? name) : b = b' := by
  have hmem (entry : String × Bytes) : entry ∈ b.entries ↔ entry ∈ b'.entries := by
    have hentry := h entry.1
    rw [mem_iff_lookup b.ordered, mem_iff_lookup b'.ordered]
    exact ⟨hentry.symm.trans, hentry.trans⟩
  have : Std.Irrefl fun a b : String × Bytes ↦ a.1 < b.1 := ⟨fun a ↦ String.lt_irrefl a.1⟩
  have : Std.Antisymm fun a b : String × Bytes ↦ a.1 < b.1 :=
    ⟨fun a b hab hba ↦ absurd (String.lt_trans hab hba) (String.lt_irrefl a.1)⟩
  have hentries : b.entries = b'.entries := b.ordered.eq_of_mem_iff b'.ordered hmem
  cases b
  cases b'
  cases hentries
  rfl

end Bindings

end IngestCheck
