import IngestCheck.Proofs.Path.Components
import IngestCheck.Settings
import Mathlib.Data.List.DropRight

namespace IngestCheck

namespace Path

/-- The names that are left at the end of some pieces, from the names before them. A double dot
takes back the last name, if there is one. -/
inductive Walk : List Bytes → List Bytes → List Bytes → Prop
  | rest (ns : List Bytes) : Walk ns [] ns
  | stay {ns ms pieces : List Bytes} {piece : Bytes} (h : piece = [] ∨ piece = dot) :
    Walk ns pieces ms → Walk ns (piece :: pieces) ms
  | up {ns ms pieces : List Bytes} : Walk ns.dropLast pieces ms → Walk ns (dotDot :: pieces) ms
  | down {ns ms pieces : List Bytes} {piece : Bytes}
    (h : piece ≠ [] ∧ piece ≠ dot ∧ piece ≠ dotDot) :
    Walk (ns ++ [piece]) pieces ms → Walk ns (piece :: pieces) ms

def follow (built piece : Bytes) : Path :=
  if piece = [] ∨ piece = dot then built
  else if piece = dotDot then (parent? built).getD built
  else join built piece

section

variable {stack ns : List Bytes} {piece n : Bytes}

theorem descend_stay (h : piece = [] ∨ piece = dot) : descend stack piece = stack := if_pos h

theorem descend_up : descend stack dotDot = stack.tail := by
  rw [descend, if_neg (by decide), if_pos rfl]

theorem descend_down (h : piece ≠ [] ∧ piece ≠ dot ∧ piece ≠ dotDot) :
    descend stack piece = piece :: stack := by
  rw [descend, if_neg (not_or.mpr ⟨h.1, h.2.1⟩), if_neg h.2.2]

theorem walk_foldl (pieces stack : List Bytes) :
    Walk stack.reverse pieces (pieces.foldl descend stack).reverse := by
  induction pieces generalizing stack with
  | nil => exact .rest _
  | cons piece pieces ih =>
    have hrest := ih (descend stack piece)
    rw [List.foldl_cons]
    by_cases hstay : piece = [] ∨ piece = dot
    · rw [descend_stay hstay] at hrest ⊢
      exact .stay hstay hrest
    by_cases hup : piece = dotDot
    · subst hup
      rw [descend_up] at hrest ⊢
      rw [← List.dropLast_reverse] at hrest
      exact .up hrest
    · have hdown : piece ≠ [] ∧ piece ≠ dot ∧ piece ≠ dotDot :=
        ⟨(not_or.mp hstay).1, (not_or.mp hstay).2, hup⟩
      rw [descend_down hdown] at hrest ⊢
      rw [List.reverse_cons] at hrest
      exact .down hdown hrest

theorem Walk.foldl_eq {ns pieces ms : List Bytes} (h : Walk ns pieces ms) :
    (pieces.foldl descend ns.reverse).reverse = ms := by
  induction h with
  | rest ns => exact List.reverse_reverse ns
  | stay hstay _ ih => rwa [List.foldl_cons, descend_stay hstay]
  | up _ ih => rwa [List.foldl_cons, descend_up, List.tail_reverse]
  | down hdown _ ih => rwa [List.foldl_cons, descend_down hdown, ← List.reverse_concat]

theorem walk_nil_iff {p : Path} : Walk [] (p.splitOn slash) ns ↔ names p = ns := by
  rw [← pieces_eq_splitOn]
  constructor
  · exact fun h ↦ h.foldl_eq
  · rintro rfl
    exact walk_foldl (pieces p) []

theorem assemble_concat (ns : List Bytes) (n : Bytes) :
    assemble true (ns ++ [n]) = ns.flatMap (slash :: ·) ++ slash :: n := by
  induction ns with
  | nil => simp [assemble]
  | cons m ns ih =>
    have hne : ns ++ [n] ≠ [] := by simp
    obtain ⟨k, more, hmore⟩ := List.exists_cons_of_ne_nil hne
    rw [assemble, if_pos rfl, hmore] at ih
    rw [List.cons_append, hmore, assemble, if_pos rfl, List.intercalate_cons_cons]
    simp only [List.flatMap_cons, List.append_assoc, ← ih, List.cons_append, List.nil_append]

theorem exists_assemble_eq (hne : ns ≠ []) :
    ∃ init last, ns = init ++ [last] ∧
      assemble true ns = init.flatMap (slash :: ·) ++ slash :: last := by
  have hns := (List.dropLast_append_getLast hne).symm
  refine ⟨ns.dropLast, ns.getLast hne, hns, ?_⟩
  rw [← assemble_concat, ← hns]

theorem getLast?_assemble (hns : ∀ n ∈ ns, IsName n) (hne : ns ≠ []) :
    (assemble true ns).getLast? ≠ some slash := by
  obtain ⟨init, last, rfl, heq⟩ := exists_assemble_eq hne
  have hlast : IsName last := hns last (by simp)
  intro hslash
  rw [heq, List.getLast?_append_of_ne_nil _ (List.cons_ne_nil _ _),
    List.getLast?_cons_of_ne_nil hlast.ne_nil] at hslash
  exact hlast.slash_notMem (List.mem_of_getLast? hslash)

theorem IsNormal.exists_names {p : Path} (h : IsNormal p) (hroot : p ≠ [slash]) :
    ∃ ns n, p = assemble true (ns ++ [n]) ∧ ∀ m ∈ ns ++ [n], IsName m := by
  rcases h with heq | ⟨rest, rfl, hnames⟩
  · exact absurd heq hroot
  · rw [pieces_eq_splitOn] at hnames
    have hne := List.splitOn_ne_nil slash rest
    refine ⟨(rest.splitOn slash).dropLast, (rest.splitOn slash).getLast hne, ?_, ?_⟩
    · rw [List.dropLast_append_getLast, assemble, List.intercalate_splitOn]
      rfl
    · rwa [List.dropLast_append_getLast]

theorem bare_eq_self {p : Path} (h : p.getLast? ≠ some slash) : bare p = p := by
  have hbare : bare p = p.rdropWhile fun b ↦ b = slash := rfl
  rw [hbare, List.rdropWhile_eq_self_iff]
  intro hne hlast
  rw [List.getLast?_eq_some_getLast hne] at h
  exact h (congrArg some (of_decide_eq_true hlast))

theorem IsName.isAbsolute_eq_false (h : IsName n) : isAbsolute n = false := by
  obtain ⟨b, n, rfl⟩ := List.exists_cons_of_ne_nil h.ne_nil
  have hb : b ≠ slash := fun heq ↦ h.slash_notMem (heq ▸ List.mem_cons_self)
  simpa [isAbsolute] using hb

theorem join_assemble (hns : ∀ n ∈ ns, IsName n) (hn : IsName n) :
    join (assemble true ns) n = assemble true (ns ++ [n]) := by
  rw [join, if_neg (by simp [hn.isAbsolute_eq_false]), assemble_concat]
  by_cases hne : ns = []
  · subst hne
    rfl
  · have hlast := getLast?_assemble hns hne
    obtain ⟨init, last, rfl, heq⟩ := exists_assemble_eq hne
    rw [heq] at hlast
    rw [heq, if_neg (by simpa using hlast), List.flatMap_append, List.flatMap_singleton]

theorem follow_assemble (hns : ∀ n ∈ ns, IsName n) (hpiece : slash ∉ piece) :
    follow (assemble true ns) piece = assemble true (descend ns.reverse piece).reverse := by
  unfold follow
  split_ifs with hstay hup
  · rw [descend_stay hstay, List.reverse_reverse]
  · subst hup
    rw [descend_up, List.tail_reverse, List.reverse_reverse, parent?_assemble hns]
    by_cases hne : ns = []
    · subst hne
      rfl
    · rw [if_neg (by simpa using hne)]
      rfl
  · obtain ⟨hne, hdot⟩ := not_or.mp hstay
    rw [descend_down ⟨hne, hdot, hup⟩, List.reverse_cons, List.reverse_reverse,
      join_assemble hns ⟨hne, hdot, hup, hpiece⟩]

theorem foldl_follow (pieces : List Bytes) (hpieces : ∀ piece ∈ pieces, slash ∉ piece)
    (hns : ∀ n ∈ ns, IsName n) : pieces.foldl follow (assemble true ns) =
      assemble true (pieces.foldl descend ns.reverse).reverse := by
  -- the path built so far consists of the names on the stack, in normal form
  induction pieces generalizing ns with
  | nil => rw [List.foldl_nil, List.foldl_nil, List.reverse_reverse]
  | cons piece pieces ih =>
    obtain ⟨hpiece, hpieces⟩ := List.forall_mem_cons.mp hpieces
    have hstack : ∀ n ∈ ns.reverse, IsName n := fun n hn ↦ hns n (List.mem_reverse.mp hn)
    have hstep : ∀ n ∈ (descend ns.reverse piece).reverse, IsName n := fun n hn ↦
      descend_isName hstack hpiece n (List.mem_reverse.mp hn)
    rw [List.foldl_cons, List.foldl_cons, follow_assemble hns hpiece, ih hpieces hstep,
      List.reverse_reverse]

end

section

variable {p q : Path}

theorem join_of_isAbsolute (hq : isAbsolute q = true) (p : Path) : join p q = q := if_pos hq

theorem pieces_append_slash (p q : Path) : pieces (p ++ slash :: q) = pieces p ++ pieces q := by
  rw [pieces_eq_splitOn, pieces_eq_splitOn, pieces_eq_splitOn, List.splitOn_append_cons_self]

theorem foldl_descend_join (hq : isAbsolute q = false) (p : Path) (stack : List Bytes) :
    (pieces (join p q)).foldl descend stack =
      (pieces q).foldl descend ((pieces p).foldl descend stack) := by
  rw [join, if_neg (by simp [hq])]
  split
  · -- no slash is put in, and the one that ends the first path has an empty piece after it
    rename_i hseam
    rw [Bool.or_eq_true, List.isEmpty_iff, decide_eq_true_iff] at hseam
    rcases hseam with rfl | hlast
    · have hempty : [[]].foldl descend stack = stack := descend_stay (.inl rfl)
      rw [List.nil_append, pieces, hempty]
    · obtain ⟨init, rfl⟩ := List.getLast?_eq_some_iff.mp hlast
      rw [List.append_assoc, List.singleton_append, pieces_append_slash, pieces_append_slash,
        List.foldl_append, List.foldl_append, pieces]
      have hempty (stack : List Bytes) : [[]].foldl descend stack = stack :=
        descend_stay (.inl rfl)
      rw [hempty]
  · rw [pieces_append_slash, List.foldl_append]

theorem names_join (hq : isAbsolute q = false) (p : Path) :
    names (join p q) = ((pieces q).foldl descend (names p).reverse).reverse := by
  rw [names, foldl_descend_join hq, names, List.reverse_reverse]

theorem normal_eq_assemble (h : isAbsolute p = true) : normal p = assemble true (names p) := by
  rw [normal, h]

theorem names_normal (h : isAbsolute p = true) : names (normal p) = names p := by
  rw [normal_eq_assemble h, names_assemble (names_isName p)]

theorem isAbsolute_normal (h : isAbsolute p = true) : isAbsolute (normal p) = true := by
  rw [normal_eq_assemble h]
  rfl

theorem normal_normal (h : isAbsolute p = true) : normal (normal p) = normal p := by
  rw [normal_eq_assemble (isAbsolute_normal h), names_normal h, ← normal_eq_assemble h]

theorem normal_join_normal (hp : isAbsolute p = true) (q : Path) :
    normal (join (normal p) q) = normal (join p q) := by
  by_cases hq : isAbsolute q = true
  · rw [join_of_isAbsolute hq, join_of_isAbsolute hq]
  · rw [Bool.not_eq_true] at hq
    have hnormal := isAbsolute_normal hp
    rw [normal_eq_assemble (isAbsolute_join hnormal), normal_eq_assemble (isAbsolute_join hp),
      names_join hq, names_join hq, names_normal hp]

theorem isAbsolute_join_eq_false (hp : isAbsolute p = false) (hq : isAbsolute q = false) :
    isAbsolute (join p q) = false := by
  rw [join, if_neg (by simp [hq])]
  cases p with
  | nil => exact hq
  | cons b p =>
    split
    · exact hp
    · exact hp

theorem normal_join_eq (hp : isAbsolute p = true) (hq : isAbsolute q = false) :
    normal (join p q) = normal (p ++ slash :: q) := by
  have hfull : isAbsolute (p ++ slash :: q) = true := by
    cases p with
    | nil => exact absurd hp (by decide)
    | cons b p => exact hp
  rw [normal_eq_assemble (isAbsolute_join hp), normal_eq_assemble hfull, names_join hq, names,
    names, pieces_append_slash, List.foldl_append, List.reverse_reverse]

theorem normal_join_join (hp : isAbsolute p = true) (q r : Path) :
    normal (join p (join q r)) = normal (join (join p q) r) := by
  by_cases hr : isAbsolute r = true
  · rw [join_of_isAbsolute hr, join_of_isAbsolute hr, join_of_isAbsolute hr]
  by_cases hq : isAbsolute q = true
  · rw [join_of_isAbsolute hq, join_of_isAbsolute (isAbsolute_join hq)]
  rw [Bool.not_eq_true] at hq hr
  rw [normal_eq_assemble (isAbsolute_join hp),
    normal_eq_assemble (isAbsolute_join (isAbsolute_join hp)),
    names_join (isAbsolute_join_eq_false hq hr), names_join hr, names_join hq,
    foldl_descend_join hr, List.reverse_reverse]

end

end Path

/-- A path in full. It stands alone or continues the current directory. -/
inductive Surroundings.Anchors (s : Surroundings) (p : Path) : Path → Prop
  | alone (h : Path.isAbsolute p = true) : Anchors s p p
  | continued {dir : Path} (h : Path.isAbsolute p = false) (hdir : s.currentDirectory = .ok dir)
    (habsolute : Path.isAbsolute dir = true) : Anchors s p (dir ++ Path.slash :: p)

namespace Path

/-- What normalising makes of a path that reads in full as the second one. -/
structure Normalised (s : Surroundings) (p full normalised : Path) : Prop where
  walked : ∃ ns, Walk [] (full.splitOn slash) ns ∧
    normalised = slash :: List.intercalate [slash] ns
  followed : (full.splitOn slash).foldl follow [slash] = normalised
  isAbsolute_eq : isAbsolute normalised = true
  isNormal : IsNormal normalised
  getLast?_ne : normalised ≠ [slash] → normalised.getLast? ≠ some slash
  stable (s' : Surroundings) : s'.absolute normalised = .ok normalised
  continued (q : Path) : s.absolute (join p q) =
    { s with currentDirectory := .ok normalised }.absolute q

section

variable {s : Surroundings} {p full : Path}

theorem anchors_unique {full' : Path} (h : s.Anchors p full) (h' : s.Anchors p full') :
    full = full' := by
  cases h with
  | alone habsolute =>
    cases h' with
    | alone => rfl
    | continued hrelative => simp [habsolute] at hrelative
  | continued hrelative hdir =>
    cases h' with
    | alone habsolute => simp [habsolute] at hrelative
    | continued _ hdir' => rw [Except.ok.inj (hdir.symm.trans hdir')]

theorem isAbsolute_of_anchors (h : s.Anchors p full) : isAbsolute full = true := by
  cases h with
  | alone h => exact h
  | @continued dir h hdir habsolute =>
    cases dir with
    | nil => exact absurd habsolute (by decide)
    | cons b dir => exact habsolute

theorem absolute_eq_join {dir : Path} (hdir : s.currentDirectory = .ok dir) (p : Path) :
    s.absolute p = .ok (normal (join dir p)) := by
  unfold Surroundings.absolute
  split
  · rename_i h
    rw [join_of_isAbsolute h]
  · rw [hdir]

theorem absolute_of_anchors (h : s.Anchors p full) : s.absolute p = .ok (normal full) := by
  cases h with
  | alone h => exact if_pos h
  | continued h hdir habsolute => rw [absolute_eq_join hdir, normal_join_eq habsolute h]

theorem absolute_join_of_anchors (h : s.Anchors p full) (q : Path) :
    s.absolute (join p q) = .ok (normal (join full q)) := by
  have hfull := isAbsolute_of_anchors h
  cases h with
  | alone h => exact if_pos (isAbsolute_join h)
  | @continued dir h hdir habsolute =>
    rw [absolute_eq_join hdir, normal_join_join habsolute,
      ← normal_join_normal (isAbsolute_join habsolute), normal_join_eq habsolute h,
      normal_join_normal hfull]

/-- Normalising is lexical: it never fails where a path can be read in full, and what it comes to
depends on the pieces of that alone. -/
theorem absolute_normalised (h : s.Anchors p full) :
    ∃ normalised, s.absolute p = .ok normalised ∧ Normalised s p full normalised := by
  have hfull := isAbsolute_of_anchors h
  have hnames := names_isName full
  have hnormal := isAbsolute_normal hfull
  refine ⟨normal full, absolute_of_anchors h, ?_⟩
  exact {
    walked := by
      refine ⟨names full, ?_, normal_eq_assemble hfull⟩
      rw [← pieces_eq_splitOn]
      exact walk_foldl (pieces full) []
    followed := by
      have hroot : ∀ n ∈ ([] : List Bytes), IsName n := by simp
      rw [← pieces_eq_splitOn, normal_eq_assemble hfull]
      exact foldl_follow _ (fun _ ↦ slash_notMem_of_mem_pieces) hroot
    isAbsolute_eq := hnormal
    isNormal := by
      rw [normal_eq_assemble hfull]
      exact isNormal_assemble hnames
    getLast?_ne := by
      rw [normal_eq_assemble hfull]
      intro hroot
      refine getLast?_assemble hnames fun hnil ↦ hroot ?_
      rw [hnil]
      rfl
    stable := fun s' ↦ by rw [Surroundings.absolute, if_pos hnormal, normal_normal hfull]
    continued := fun q ↦ by
      rw [absolute_join_of_anchors h, absolute_eq_join rfl, normal_join_normal hfull] }

end

def homeSurroundings : Surroundings where
  value? _ := none
  processors := 1
  executableDirectory := .error .noEntry
  currentDirectory := .ok "/home//dev/./"

/-- A path that climbs past the root, with a name that is no text. -/
theorem absolute_normalised_climbing :
    let p : Path := Bytes.ofString "a/./../..//../../.." ++ [slash, 0xFF, 0x2E, slash]
    let full := Bytes.ofString "/home//dev/./" ++ slash :: p
    homeSurroundings.Anchors p full ∧
      homeSurroundings.absolute p = .ok [slash, 0xFF, 0x2E] ∧
      Normalised homeSurroundings p full [slash, 0xFF, 0x2E] := by
  intro p full
  have hanchors : homeSurroundings.Anchors p full :=
    .continued (by decide) rfl (by decide)
  obtain ⟨normalised, heq, hnormalised⟩ := absolute_normalised hanchors
  have hvalue : homeSurroundings.absolute p = .ok [slash, 0xFF, 0x2E] := by decide
  obtain rfl : normalised = [slash, 0xFF, 0x2E] := Except.ok.inj (heq.symm.trans hvalue)
  exact ⟨hanchors, hvalue, hnormalised⟩

end Path

end IngestCheck
