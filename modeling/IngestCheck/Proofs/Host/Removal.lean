import IngestCheck.Proofs.Host.Route
import IngestCheck.Proofs.Path.Normalisation

namespace IngestCheck.Host.FileTree

def keeping (t : FileTree) (keep : Place → Bool) : FileTree := ⟨t.entries.filter fun x ↦ keep x.1⟩

/-- Take away what lies below an entry, but not what leads to some places. -/
def abandon (t : FileTree) (place : Place) (kept : List Place) : FileTree :=
  t.keeping fun q ↦ q = place || !place.isPrefixOf q || kept.any (q.isPrefixOf ·)

/-- What a path covers: the link that it names, or the directory that it names with all below. -/
inductive Covers (t : FileTree) (cwd : Place) (p : Path) : Place → Prop
  | link {place : Place} {target : Path} (h : t.find false cwd p = .ok (place, .link target)) :
    Covers t cwd p place
  | below {top place : Place} (h : t.find false cwd p = .ok (top, .directory))
    (hbelow : top <+: place) : Covers t cwd p place

/-- What an attempt to remove a path may do to a tree, whatever comes of it. -/
structure Attempt (t t' : FileTree) (cwd : Place) (p : Path) : Prop where
  isTree : t'.IsTree
  remnant : t'.Remnant t
  frame (place : Place) : ¬ t.Covers cwd p place → t'.entry? place = t.entry? place

/-- What the removal of a path does, if the host refuses nothing that it could do. -/
structure Removal (t t' : FileTree) (cwd : Place) (p : Path) : Prop extends Attempt t t' cwd p where
  gone (place : Place) : t'.find true cwd p ≠ .ok (place, .directory)

section

variable {t t' : FileTree} {keep : Place → Bool} {place : Place} {e : Entry}

theorem lookup_filter (entries : List (Place × Entry)) (keep : Place → Bool) (place : Place) :
    (entries.filter fun x ↦ keep x.1).lookup place =
      if keep place then entries.lookup place else none := by
  induction entries with
  | nil => simp
  | cons x entries ih =>
    obtain ⟨q, e⟩ := x
    rw [List.filter_cons]
    by_cases hq : place = q
    · subst hq
      cases hkeep : keep place with
      | true => simp
      | false => simpa [hkeep] using ih
    · have hne : (place == q) = false := beq_eq_false_iff_ne.mpr hq
      cases hkeep : keep q with
      | true => simpa [List.lookup_cons, hne] using ih
      | false => simpa [List.lookup_cons, hne] using ih

theorem entry?_keeping (hplace : place ≠ []) :
    entry? (t.keeping keep) place = if keep place then t.entry? place else none := by
  have hne : ¬ place.isEmpty = true := by simpa using hplace
  rw [keeping, entry?, if_neg hne, lookup_filter, entry?, if_neg hne]

theorem entry?_keeping_of_keep (h : keep place = true) :
    entry? (t.keeping keep) place = t.entry? place := by
  by_cases hplace : place = []
  · subst hplace
    rfl
  · rw [entry?_keeping hplace, if_pos h]

theorem keeping_remnant (t : FileTree) (keep : Place → Bool) : (t.keeping keep).Remnant t := by
  intro place e he
  by_cases hplace : place = []
  · subst hplace
    exact he
  · rw [entry?_keeping hplace, Option.ite_none_right_eq_some] at he
    exact he.2

theorem keeping_isTree (ht : t.IsTree)
    (h : ∀ place name e, t.entry? (place ++ [name]) = some e → keep (place ++ [name]) = true →
      keep place = true) : (t.keeping keep).IsTree := by
  intro place name e he
  rw [entry?_keeping (by simp), Option.ite_none_right_eq_some] at he
  rw [entry?_keeping_of_keep (h place name e he.2 he.1)]
  exact ht place name e he.2

theorem isTree_of_entries
    (h : ∀ x ∈ t.entries, entry? t x.1.dropLast = some .directory) : t.IsTree := by
  intro place name e he
  have hne : ¬ (place ++ [name]).isEmpty = true := by simp
  unfold entry? at he
  rw [if_neg hne, List.lookup_eq_some_iff] at he
  obtain ⟨before, after, hentries, -⟩ := he
  have hmem : (place ++ [name], e) ∈ t.entries := by simp [hentries]
  simpa using h _ hmem

theorem erase_eq_keeping (t : FileTree) (place : Place) :
    t.erase place = t.keeping fun q ↦ q ≠ place := rfl

theorem hollow_eq_keeping (t : FileTree) (place : Place) :
    t.hollow place = t.keeping fun q ↦ q = place || !place.isPrefixOf q := rfl

theorem hollow_eq_abandon (t : FileTree) (place : Place) : t.hollow place = t.abandon place [] := by
  simp only [hollow_eq_keeping, abandon, List.any_nil, Bool.or_false]

theorem entry?_erase_self (hplace : place ≠ []) : entry? (t.erase place) place = none := by
  rw [erase_eq_keeping, entry?_keeping hplace, if_neg (by simp)]

theorem entry?_erase_of_ne {q : Place} (h : q ≠ place) :
    entry? (t.erase place) q = t.entry? q := by
  rw [erase_eq_keeping]
  exact entry?_keeping_of_keep (decide_eq_true h)

theorem erase_isTree (ht : t.IsTree) (h : ∀ name, t.entry? (place ++ [name]) = none) :
    (t.erase place).IsTree := by
  rw [erase_eq_keeping]
  refine keeping_isTree ht fun q name e he _ ↦ decide_eq_true ?_
  rintro rfl
  rw [h name] at he
  exact absurd he nofun

theorem entry?_abandon_of_not_prefix {q : Place} (h : ¬ place <+: q) (kept : List Place) :
    entry? (t.abandon place kept) q = t.entry? q := by
  have hout : place.isPrefixOf q = false := by simpa [← Bool.not_eq_true] using h
  exact entry?_keeping_of_keep (by simp [hout])

theorem entry?_abandon_self (kept : List Place) :
    entry? (t.abandon place kept) place = t.entry? place :=
  entry?_keeping_of_keep (by simp)

theorem abandon_isTree (ht : t.IsTree) (place : Place) (kept : List Place) :
    (t.abandon place kept).IsTree := by
  refine keeping_isTree ht fun q name e _ hkeep ↦ ?_
  simp only [Bool.or_eq_true, decide_eq_true_eq, Bool.not_eq_true', List.any_eq_true,
    ← Bool.not_eq_true, List.isPrefixOf_iff_prefix] at hkeep ⊢
  have hq : q <+: q ++ [name] := List.prefix_append q [name]
  rcases hkeep with (rfl | hout) | ⟨k, hk, hle⟩
  · refine .inl (.inr fun hle ↦ ?_)
    have hlength := hle.length_le
    rw [List.length_append, List.length_singleton] at hlength
    omega
  · exact .inl (.inr fun hle ↦ hout (hle.trans hq))
  · exact .inr ⟨k, hk, hq.trans hle⟩

theorem hasBelow_hollow (t : FileTree) (place : Place) :
    (t.hollow place).hasBelow place = false := by
  rw [hasBelow, List.any_eq_false]
  intro x hx hbelow
  have hkept := (List.mem_filter.mp hx).2
  simp only [Bool.or_eq_true, Bool.and_eq_true, decide_eq_true_eq, Bool.not_eq_true']
    at hkept hbelow
  rcases hkept with hself | hout
  · exact hbelow.2 hself
  · rw [hbelow.1] at hout
    exact absurd hout nofun

theorem entry?_hollow_below (t : FileTree) (place : Place) (name : Bytes) :
    entry? (t.hollow place) (place ++ [name]) = none := by
  rw [hollow_eq_keeping, entry?_keeping (by simp), if_neg]
  simp

end

structure IsLookable (p : Path) : Prop where
  nul_notMem : (0 : UInt8) ∉ p
  ne_nil : p ≠ []
  length_lt : p.length < pathLimit

section

variable {t t' : FileTree} {follow : Bool} {cwd place : Place} {p : Path} {e : Entry}

theorem lookUp_eq_walk (hp : IsLookable p) : t.lookUp follow cwd p =
    t.walk follow linkLimit (if Path.isAbsolute p then [] else cwd) (Path.pieces p) := by
  have hnul : ¬ p.contains 0 = true := by simpa using hp.nul_notMem
  have hne : ¬ p.isEmpty = true := by simpa using hp.ne_nil
  rw [lookUp, if_neg hnul, if_neg hne, if_neg (Nat.not_le.mpr hp.length_lt)]

theorem find_eq_ok_iff : t.find follow cwd p = .ok (place, e) ↔ IsLookable p ∧
    t.Route follow linkLimit (if Path.isAbsolute p then [] else cwd) (Path.pieces p) place ∧
    t.entry? place = some e := by
  have hfind : t.find follow cwd p = .ok (place, e) ↔
      t.lookUp follow cwd p = .ok (place, some e) := by
    unfold find
    split <;> simp_all
  rw [hfind, ← walk_eq_iff]
  constructor
  · intro h
    have hp : IsLookable p := by
      unfold lookUp at h
      split_ifs at h with hnul hempty hlength
      all_goals exact ⟨by simpa using hnul, by simpa using hempty, Nat.not_le.mp hlength⟩
    exact ⟨hp, lookUp_eq_walk hp ▸ h⟩
  · rintro ⟨hp, h⟩
    rwa [lookUp_eq_walk hp]

theorem find_of_remnant (ht : t'.Remnant t) (h : t'.find follow cwd p = .ok (place, e)) :
    t.find follow cwd p = .ok (place, e) := by
  rw [find_eq_ok_iff] at h ⊢
  exact ⟨h.1, h.2.1.of_remnant ht, ht _ _ h.2.2⟩

theorem exists_find_false (h : t.find true cwd p = .ok (place, e)) :
    ∃ named e', t.find false cwd p = .ok (named, e') ∧
      ((∀ target, e' ≠ .link target) → named = place ∧ e' = e) := by
  rw [find_eq_ok_iff] at h
  obtain ⟨hp, hroute, he⟩ := h
  obtain ⟨named, hnamed, hsame⟩ := hroute.exists_named
  obtain ⟨e', he'⟩ := hnamed.exists_entry
  refine ⟨named, e', find_eq_ok_iff.mpr ⟨hp, hnamed, he'⟩, fun hlink ↦ ?_⟩
  obtain rfl := hsame e' he' hlink
  exact ⟨rfl, Option.some_inj.mp (he'.symm.trans he)⟩

instance : DecidablePred (t.Covers cwd p) := fun place ↦
  decidable_of_iff ((match t.find false cwd p with
    | .ok (top, .directory) => top.isPrefixOf place
    | .ok (top, .link _) => top = place
    | _ => false) = true) <| by
  constructor
  · intro h
    split at h
    · rename_i top hfind
      exact .below hfind (List.isPrefixOf_iff_prefix.mp h)
    · rename_i top target hfind
      obtain rfl : top = place := of_decide_eq_true h
      exact .link hfind
    · exact absurd h nofun
  · rintro (h | ⟨h, hle⟩)
    · simp [h]
    · simpa [h] using hle

theorem Covers.of_remnant (ht : t'.Remnant t) (h : t'.Covers cwd p place) :
    t.Covers cwd p place := by
  cases h with
  | link h => exact .link (find_of_remnant ht h)
  | below h hbelow => exact .below (find_of_remnant ht h) hbelow

end

section

variable {t : FileTree} {cwd place dir : Place} {p : Path} {ns : List Bytes} {n : Bytes}

theorem removeDirectory_eq (hn : IsEntryName n) (h : t.final cwd p = .ok ⟨dir, n, false⟩)
    (hdir : t.entry? (dir ++ [n]) = some .directory)
    (hbelow : t.hasBelow (dir ++ [n]) = false) :
    t.removeDirectory cwd p = .ok (t.erase (dir ++ [n])) := by
  obtain ⟨hnil, hdot⟩ := not_or.mp hn.ne_stay
  have hempty : ¬ n.isEmpty = true := by simpa using hnil
  rw [removeDirectory, h]
  simp only [bind, Except.bind, Final.entry?, Final.place, if_neg hdot, if_neg hn.ne_up,
    if_neg hempty, if_neg (Nat.not_lt.mpr hn.length_le), hdir, hbelow]
  rfl

theorem removeDirectory_of_final (h : t.final cwd p = .error .noEntry) :
    t.removeDirectory cwd p = .error .noEntry := by
  rw [removeDirectory, h]
  rfl

variable (hns : ∀ m ∈ ns ++ [n], Path.IsName m) (hp : p = Path.assemble true (ns ++ [n]))
include hns hp

theorem final_eq (hlook : IsLookable p) : t.final cwd p =
    match t.walk true linkLimit [] ([] :: ns) with
    | .ok (directory, some .directory) => .ok ⟨directory, n, false⟩
    | .ok (_, some _) => .error .notDirectory
    | .ok (_, none) => .error .noEntry
    | .error e => .error e := by
  have hne : ns ++ [n] ≠ [] := by simp
  have hbare : Path.bare p = p := Path.bare_eq_self (hp ▸ Path.getLast?_assemble hns hne)
  have hpieces : Path.pieces p = [] :: ns ++ [n] := hp ▸ Path.pieces_assemble hns hne
  have habsolute : Path.isAbsolute p = true := hp ▸ rfl
  have hnul : ¬ p.contains 0 = true := by simpa using hlook.nul_notMem
  have hempty : ¬ p.isEmpty = true := by simpa using hlook.ne_nil
  have hlength : ¬ pathLimit ≤ p.length := Nat.not_le.mpr hlook.length_lt
  have hlast : ([] :: ns ++ [n]).getLastD [] = n := List.getLastD_concat
  have hslashed : decide (p.length < p.length) = false := by simp
  rw [final, if_neg hnul, if_neg hempty, if_neg hlength]
  simp only [hbare, hpieces, if_pos habsolute, List.dropLast_concat, hlast, hslashed]
  cases t.walk true linkLimit [] ([] :: ns) with
  | error e => rfl
  | ok found =>
    obtain ⟨directory, entry⟩ := found
    cases entry with
    | none => rfl
    | some e => cases e <;> rfl

theorem final_of_misses (hlook : IsLookable p)
    (h : Misses (t.walk true linkLimit [] ([] :: ns))) : t.final cwd p = .error .noEntry := by
  rw [final_eq hns hp hlook]
  rcases h with h | ⟨place, h⟩
  · rw [h]
  · rw [h]

theorem exists_directory_of_find {e : Entry} (ht : t.IsTree)
    (h : t.find false cwd p = .ok (place, e)) :
    ∃ dir, t.Route true linkLimit [] ([] :: ns) dir ∧ t.entry? dir = some .directory ∧
      IsEntryName n ∧ place = dir ++ [n] := by
  have hpieces : Path.pieces p = [] :: ns ++ [n] := hp ▸ Path.pieces_assemble hns (by simp)
  have habsolute : Path.isAbsolute p = true := hp ▸ rfl
  have hn : Path.IsName n := hns n (by simp)
  obtain ⟨-, hroute, -⟩ := find_eq_ok_iff.mp h
  rw [if_pos habsolute, hpieces] at hroute
  exact hroute.exists_directory ht (not_or.mpr ⟨hn.ne_nil, hn.ne_dot⟩) hn.ne_dotDot

end

def giveUp (t : FileTree) (cwd : Place) (p : Path) (kept : List Place) : FileTree :=
  match t.find false cwd p with
  | .ok (place, .directory) => t.abandon place kept
  | _ => t

section

variable {t : FileTree} {cwd place : Place} {p : Path}

theorem Attempt.refl (ht : t.IsTree) : Attempt t t cwd p := ⟨ht, .refl t, fun _ _ ↦ rfl⟩

theorem Attempt.erase {t' : FileTree} (h : Attempt t t' cwd p) (hplace : t.Covers cwd p place)
    (hbelow : ∀ name, t'.entry? (place ++ [name]) = none) : Attempt t (t'.erase place) cwd p where
  isTree := erase_isTree h.isTree hbelow
  remnant := (keeping_remnant t' fun q ↦ q ≠ place).trans h.remnant
  frame q hq := by
    have hne : q ≠ place := fun heq ↦ hq (heq ▸ hplace)
    rw [entry?_erase_of_ne hne, h.frame q hq]

theorem attempt_erase_link {target : Path} (ht : t.IsTree)
    (h : t.find false cwd p = .ok (place, .link target)) : Attempt t (t.erase place) cwd p := by
  have hentry : t.entry? place = some (.link target) := (find_eq_ok_iff.mp h).2.2
  refine (Attempt.refl ht).erase (.link h) fun name ↦ ?_
  cases hname : t.entry? (place ++ [name]) with
  | none => rfl
  | some e =>
    have hdir := ht place name e hname
    rw [hentry] at hdir
    exact absurd hdir nofun

theorem attempt_abandon (ht : t.IsTree) (h : t.find false cwd p = .ok (place, .directory))
    (kept : List Place) : Attempt t (t.abandon place kept) cwd p where
  isTree := abandon_isTree ht place kept
  remnant := keeping_remnant t _
  frame _ hq := entry?_abandon_of_not_prefix (fun hle ↦ hq (.below h hle)) kept

theorem attempt_hollow (ht : t.IsTree) (h : t.find false cwd p = .ok (place, .directory)) :
    Attempt t (t.hollow place) cwd p := by
  rw [hollow_eq_abandon]
  exact attempt_abandon ht h []

theorem attempt_giveUp (ht : t.IsTree) (cwd : Place) (p : Path) (kept : List Place) :
    Attempt t (t.giveUp cwd p kept) cwd p := by
  unfold giveUp
  split
  · rename_i place h
    exact attempt_abandon ht h kept
  · exact .refl ht

theorem find_of_lost {t' : FileTree} {e : Entry} (ht : t'.Remnant t)
    (h : t.find false cwd p = .ok (place, e)) (hlost : t'.entry? place = none)
    (answer : Place × Entry) : t'.find true cwd p ≠ .ok answer := by
  intro hfind
  obtain ⟨named, e', hnamed, -⟩ := exists_find_false hfind
  have heq := (find_of_remnant ht hnamed).symm.trans h
  rw [Except.ok.injEq, Prod.mk.injEq] at heq
  have hentry := (find_eq_ok_iff.mp hnamed).2.2
  rw [heq.1, hlost] at hentry
  exact absurd hentry nofun

theorem ne_nil_of_find {e : Entry} (ht : t.IsTree) (hp : Path.IsNormal p)
    (hroot : p ≠ [Path.slash]) (h : t.find false cwd p = .ok (place, e)) : place ≠ [] := by
  obtain ⟨ns, n, hassemble, hns⟩ := hp.exists_names hroot
  obtain ⟨dir, -, -, -, rfl⟩ := exists_directory_of_find hns hassemble ht h
  exact List.concat_ne_nil n dir

/-- A directory is taken away with all that it holds. If the way to it leads through what it holds,
it stays behind, empty, and its path leads nowhere any more. -/
theorem removeAll_directory (ht : t.IsTree) (hp : Path.IsNormal p) (hroot : p ≠ [Path.slash])
    (h : t.find false cwd p = .ok (place, .directory)) :
    t.removeAll cwd p = (.ok (), (t.hollow place).erase place) ∨
      t.removeAll cwd p = (.ok (), t.hollow place) ∧
        ∀ answer, (t.hollow place).find true cwd p ≠ .ok answer := by
  obtain ⟨ns, n, hassemble, hns⟩ := hp.exists_names hroot
  have hollowed := attempt_hollow ht h
  have hlook : IsLookable p := (find_eq_ok_iff.mp h).1
  obtain ⟨dir, hdir, -, hname, hplace⟩ := exists_directory_of_find hns hassemble ht h
  rcases hdir.remnant hollowed.remnant with hkept | hmiss
  · -- the way is still there, and the directory at its end is empty
    have hself : entry? (t.hollow place) (dir ++ [n]) = some .directory := by
      rw [← hplace, hollow_eq_abandon, entry?_abandon_self]
      exact (find_eq_ok_iff.mp h).2.2
    have hentry := hollowed.isTree _ _ _ hself
    have hfinal : (t.hollow place).final cwd p = .ok ⟨dir, n, false⟩ := by
      rw [final_eq hns hassemble hlook, hkept.walk_eq, hentry]
    have hbelow : (t.hollow place).hasBelow (dir ++ [n]) = false := hplace ▸ hasBelow_hollow t place
    have hremoved := removeDirectory_eq hname hfinal hself hbelow
    rw [← hplace] at hremoved
    left
    rw [removeAll, h]
    simp only [hremoved]
  · have hfinal : (t.hollow place).final cwd p = .error .noEntry :=
      final_of_misses hns hassemble hlook hmiss
    have hrefused : (t.hollow place).removeDirectory cwd p = .error (.os 2) :=
      removeDirectory_of_final hfinal
    right
    refine ⟨by rw [removeAll, h]; simp only [hrefused], fun answer hfind ↦ ?_⟩
    obtain ⟨named, e, hnamed, -⟩ := exists_find_false hfind
    obtain ⟨dir', hdir', -⟩ := exists_directory_of_find hns hassemble hollowed.isTree hnamed
    exact hdir'.not_misses hmiss

theorem removeAll_removal (ht : t.IsTree) (hp : Path.IsNormal p) (hroot : p ≠ [Path.slash]) :
    Removal t (t.removeAll cwd p).2 cwd p := by
  -- where nothing is taken away, no directory was to be seen either
  have huntouched (h : ∀ place, t.find false cwd p ≠ .ok (place, .directory))
      (hlink : ∀ place target, t.find false cwd p ≠ .ok (place, .link target)) :
      Removal t t cwd p := by
    refine ⟨.refl ht, fun place hfind ↦ ?_⟩
    obtain ⟨named, e, hnamed, hsame⟩ := exists_find_false hfind
    have hnolink : ∀ target, e ≠ .link target := fun target heq ↦
      hlink named target (heq ▸ hnamed)
    exact h named ((hsame hnolink).2 ▸ hnamed)
  cases hfind : t.find false cwd p with
  | error e =>
    have hremoveAll : t.removeAll cwd p = (.error e, t) := by rw [removeAll, hfind]
    rw [hremoveAll]
    exact huntouched (by simp [hfind]) (by simp [hfind])
  | ok found =>
    obtain ⟨place, e⟩ := found
    have hplace : place ≠ [] := ne_nil_of_find ht hp hroot hfind
    cases e with
    | link target =>
      have hremoveAll : t.removeAll cwd p = (.ok (), t.erase place) := by rw [removeAll, hfind]
      have herased := attempt_erase_link ht hfind
      rw [hremoveAll]
      exact ⟨herased, fun _ ↦ find_of_lost herased.remnant hfind (entry?_erase_self hplace) _⟩
    | directory =>
      rcases removeAll_directory ht hp hroot hfind with h | ⟨h, hlost⟩
      · have hollowed := attempt_hollow ht hfind
        have herased := hollowed.erase (.below hfind (List.prefix_refl _))
          (entry?_hollow_below t place)
        rw [h]
        exact ⟨herased, fun _ ↦ find_of_lost herased.remnant hfind (entry?_erase_self hplace) _⟩
      · rw [h]
        exact ⟨attempt_hollow ht hfind, fun place ↦ hlost _⟩
    | file | tool | null | stream =>
      have hremoveAll : t.removeAll cwd p = (.error .notDirectory, t) := by rw [removeAll, hfind]
      rw [hremoveAll]
      exact huntouched (by simp [hfind]) (by simp [hfind])

end

end IngestCheck.Host.FileTree
