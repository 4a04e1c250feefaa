import IngestCheck.Text.Utf8

namespace IngestCheck

/-- Put a binding in its place, over any earlier one of the same name. -/
def insertBinding (name : String) (value : Bytes) :
    List (String × Bytes) → List (String × Bytes)
  | [] => [(name, value)]
  | entry :: rest =>
    if name < entry.1 then (name, value) :: entry :: rest
    else if name = entry.1 then (name, value) :: rest
    else entry :: insertBinding name value rest

theorem fst_mem_insertBinding {name n : String} {value v : Bytes}
    {entries : List (String × Bytes)} (h : (n, v) ∈ insertBinding name value entries) :
    n = name ∨ ∃ w, (n, w) ∈ entries := by
  induction entries with
  | nil => simp_all [insertBinding]
  | cons entry rest ih =>
    unfold insertBinding at h
    split at h
    · rcases List.mem_cons.mp h with h | h
      · exact Or.inl (congrArg Prod.fst h)
      · exact Or.inr ⟨v, h⟩
    · split at h
      · rcases List.mem_cons.mp h with h | h
        · exact Or.inl (congrArg Prod.fst h)
        · exact Or.inr ⟨v, List.mem_cons_of_mem _ h⟩
      · rcases List.mem_cons.mp h with h | h
        · exact Or.inr ⟨v, h ▸ List.mem_cons_self⟩
        · exact (ih h).imp_right fun ⟨w, hw⟩ ↦ ⟨w, List.mem_cons_of_mem _ hw⟩

abbrev Ordered (entries : List (String × Bytes)) : Prop :=
  entries.Pairwise fun a b ↦ a.1 < b.1

theorem ordered_insertBinding {name : String} {value : Bytes} {entries : List (String × Bytes)}
    (h : Ordered entries) : Ordered (insertBinding name value entries) := by
  induction entries with
  | nil => simp [insertBinding]
  | cons entry rest ih =>
    obtain ⟨first, later⟩ := List.pairwise_cons.mp h
    unfold insertBinding
    split
    · rename_i lt
      refine List.pairwise_cons.mpr ⟨fun e he ↦ ?_, h⟩
      rcases List.mem_cons.mp he with rfl | he
      · exact lt
      · exact String.lt_trans lt (first e he)
    · split
      · rename_i eq
        exact List.pairwise_cons.mpr ⟨fun e he ↦ by simpa [eq] using first e he, later⟩
      · rename_i ge ne
        refine List.pairwise_cons.mpr ⟨fun e he ↦ ?_, ih later⟩
        rcases fst_mem_insertBinding he with eq | ⟨w, hw⟩
        · rw [eq]
          rcases String.le_total name entry.1 with le | le
          · exact absurd (String.le_antisymm le (String.not_lt.mp ge)) ne
          · exact String.not_le.mp fun le' ↦ ne (String.le_antisymm le' le)
        · exact first (e.1, w) hw

structure Bindings where
  entries : List (String × Bytes) := []
  ordered : Ordered entries := by simp

namespace Bindings

instance : EmptyCollection Bindings := ⟨{}⟩

instance : DecidableEq Bindings := fun a b ↦
  decidable_of_iff (a.entries = b.entries) ⟨fun h ↦ by cases a; cases b; simp_all, fun h ↦ h ▸ rfl⟩

def insert (b : Bindings) (name : String) (value : Bytes) : Bindings :=
  ⟨insertBinding name value b.entries, ordered_insertBinding b.ordered⟩

def get? (b : Bindings) (name : String) : Option Bytes := b.entries.lookup name

def isEmpty (b : Bindings) : Bool := b.entries.isEmpty

end Bindings

end IngestCheck
