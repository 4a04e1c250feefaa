import IngestCheck.Path
import IngestCheck.Proofs.Text.Encoding

namespace IngestCheck.Path

structure IsName (n : Bytes) : Prop where
  ne_nil : n ≠ []
  ne_dot : n ≠ dot
  ne_dotDot : n ≠ dotDot
  slash_notMem : slash ∉ n

/-- Absolute, and every piece behind the first slash is a name. The root has no such piece. -/
def IsNormal (p : Path) : Prop :=
  p = [slash] ∨ ∃ rest, p = slash :: rest ∧ ∀ piece ∈ pieces rest, IsName piece

/-- The pieces of a path, empty ones and dots left out. -/
def components (p : Path) : List Bytes := (pieces p).filter fun piece ↦ piece ≠ [] ∧ piece ≠ dot

/-- A path without double dots that is a directory or lies below it. -/
def Within (dir p : Path) : Prop := components dir <+: components p

instance : DecidablePred IsName := fun n ↦
  decidable_of_iff (n ≠ [] ∧ n ≠ dot ∧ n ≠ dotDot ∧ slash ∉ n)
    ⟨fun ⟨hne, hdot, hup, hslash⟩ ↦ ⟨hne, hdot, hup, hslash⟩,
      fun h ↦ ⟨h.ne_nil, h.ne_dot, h.ne_dotDot, h.slash_notMem⟩⟩

instance : DecidablePred IsNormal := fun p ↦
  decidable_of_iff
    (p = [slash] ∨ p.head? = some slash ∧ ∀ piece ∈ pieces p.tail, IsName piece) <| by
  refine or_congr_right ?_
  cases p with
  | nil => simp
  | cons b rest => simp

section

variable {p q base : Path}

theorem pieces_eq_splitOn (p : Path) : pieces p = p.splitOn slash := by
  induction p with
  | nil => rfl
  | cons b p ih =>
    rw [pieces, List.splitOn_cons_eq_if_modifyHead, ih]
    obtain ⟨piece, more, hsplit⟩ := List.exists_cons_of_ne_nil (List.splitOn_ne_nil slash p)
    simp [hsplit]

theorem slash_notMem_of_mem_pieces {piece : Bytes} (h : piece ∈ pieces p) : slash ∉ piece := by
  rw [pieces_eq_splitOn] at h
  exact notMem_of_mem_splitOn h

theorem components_append_slash (p q : Path) :
    components (p ++ slash :: q) = components p ++ components q := by
  simp only [components, pieces_eq_splitOn, List.splitOn_append_cons_self, List.filter_append]

theorem components_join (h : isAbsolute p = false) :
    components (join base p) = components base ++ components p := by
  have hnil : components [] = [] := rfl
  rw [join, if_neg (by simp [h])]
  split
  · rename_i hbase
    rw [Bool.or_eq_true, List.isEmpty_iff, decide_eq_true_iff] at hbase
    rcases hbase with rfl | hlast
    · rw [hnil, List.nil_append, List.nil_append]
    · obtain ⟨init, rfl⟩ := List.getLast?_eq_some_iff.mp hlast
      rw [List.append_assoc, List.singleton_append, components_append_slash,
        components_append_slash, hnil, List.append_nil]
  · exact components_append_slash base p

theorem isAbsolute_join (h : isAbsolute base = true) : isAbsolute (join base p) = true := by
  have hne : base ≠ [] := by
    rintro rfl
    exact absurd h (by decide)
  have happend (more : Path) : isAbsolute (base ++ more) = true := by
    rwa [isAbsolute, List.head?_append_of_ne_nil base hne]
  unfold join
  split_ifs with hp
  · exact hp
  · exact happend p
  · exact happend (slash :: p)

theorem not_within_of_ne {root below below' : List Bytes} {name name' : Bytes} (hne : name ≠ name')
    (hp : components p = root ++ name :: below) (hq : components q = root ++ name' :: below') :
    ¬ Within p q := by
  intro hwithin
  rw [Within, hp, hq, List.prefix_append_right_inj, List.cons_prefix_cons] at hwithin
  exact hne hwithin.1

end

section

variable {stack ns : List Bytes}

theorem descend_isName (hstack : ∀ n ∈ stack, IsName n) {piece : Bytes} (hpiece : slash ∉ piece) :
    ∀ n ∈ descend stack piece, IsName n := by
  unfold descend
  split_ifs with hskip hup
  · exact hstack
  · exact fun n hn ↦ hstack n (List.mem_of_mem_tail hn)
  · rw [not_or] at hskip
    exact List.forall_mem_cons.mpr ⟨⟨hskip.1, hskip.2, hup, hpiece⟩, hstack⟩

theorem names_isName (p : Path) : ∀ n ∈ names p, IsName n := by
  -- names are all that the stack ever holds
  have hfold (pieces : List Bytes) (hpieces : ∀ piece ∈ pieces, slash ∉ piece)
      (stack : List Bytes) (hstack : ∀ n ∈ stack, IsName n) :
      ∀ n ∈ pieces.foldl descend stack, IsName n := by
    induction pieces generalizing stack with
    | nil => exact hstack
    | cons piece pieces ih =>
      obtain ⟨hpiece, hpieces⟩ := List.forall_mem_cons.mp hpieces
      exact ih hpieces _ (descend_isName hstack hpiece)
  intro n hn
  exact hfold _ (fun _ ↦ slash_notMem_of_mem_pieces) [] (by simp) n (List.mem_reverse.mp hn)

theorem foldl_descend (hns : ∀ n ∈ ns, IsName n) (stack : List Bytes) :
    ns.foldl descend stack = ns.reverse ++ stack := by
  induction ns generalizing stack with
  | nil => rfl
  | cons n ns ih =>
    obtain ⟨hn, hns⟩ := List.forall_mem_cons.mp hns
    have hdescend : descend stack n = n :: stack := by
      rw [descend, if_neg (not_or.mpr ⟨hn.ne_nil, hn.ne_dot⟩), if_neg hn.ne_dotDot]
    rw [List.foldl_cons, hdescend, ih hns, List.reverse_cons, List.append_assoc,
      List.singleton_append]

theorem pieces_intercalate (hns : ∀ n ∈ ns, IsName n) (hne : ns ≠ []) :
    pieces (List.intercalate [slash] ns) = ns := by
  rw [pieces_eq_splitOn, List.splitOn_intercalate slash (fun n hn ↦ (hns n hn).slash_notMem) hne]

theorem pieces_assemble (hns : ∀ n ∈ ns, IsName n) (hne : ns ≠ []) :
    pieces (assemble true ns) = [] :: ns := by
  rw [assemble, if_pos rfl, List.singleton_append, pieces, if_pos rfl, pieces_intercalate hns hne]

theorem names_assemble (hns : ∀ n ∈ ns, IsName n) : names (assemble true ns) = ns := by
  by_cases hne : ns = []
  · subst hne
    rfl
  · have hroot : descend [] [] = [] := rfl
    rw [names, pieces_assemble hns hne, List.foldl_cons, hroot, foldl_descend hns,
      List.append_nil, List.reverse_reverse]

theorem components_assemble (hns : ∀ n ∈ ns, IsName n) : components (assemble true ns) = ns := by
  by_cases hne : ns = []
  · subst hne
    rfl
  · rw [components, pieces_assemble hns hne, List.filter_cons_of_neg (by simp), List.filter_eq_self]
    exact fun n hn ↦ decide_eq_true ⟨(hns n hn).ne_nil, (hns n hn).ne_dot⟩

theorem isNormal_assemble (hns : ∀ n ∈ ns, IsName n) : IsNormal (assemble true ns) := by
  by_cases hne : ns = []
  · exact .inl (by rw [hne]; rfl)
  · refine .inr ⟨List.intercalate [slash] ns, rfl, ?_⟩
    rwa [pieces_intercalate hns hne]

theorem parent?_assemble (hns : ∀ n ∈ ns, IsName n) :
    parent? (assemble true ns) = if ns.isEmpty then none else some (assemble true ns.dropLast) := by
  have habsolute : isAbsolute (assemble true ns) = true := rfl
  rw [parent?, names_assemble hns, habsolute]

end

end IngestCheck.Path
