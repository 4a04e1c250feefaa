import IngestCheck.Host.Edit
import Mathlib.Data.List.Basic

namespace IngestCheck.Host.FileTree

structure IsEntryName (piece : Bytes) : Prop where
  ne_stay : ¬ (piece = [] ∨ piece = Path.dot)
  ne_up : piece ≠ Path.dotDot
  length_le : piece.length ≤ nameLimit

/-- The ways along the pieces of a path to something that is there. A link at the end is followed
only if asked for. -/
inductive Route (t : FileTree) (follow : Bool) : ℕ → Place → List Bytes → Place → Prop
  | done {links : ℕ} {here : Place} {e : Entry} (hentry : t.entry? here = some e) :
    Route t follow links here [] here
  | stay {links : ℕ} {here place : Place} {piece : Bytes} {rest : List Bytes}
    (hpiece : piece = [] ∨ piece = Path.dot) :
    Route t follow links here rest place → Route t follow links here (piece :: rest) place
  | up {links : ℕ} {here place : Place} {rest : List Bytes} :
    Route t follow links here.dropLast rest place →
    Route t follow links here (Path.dotDot :: rest) place
  | down {links : ℕ} {here place : Place} {piece : Bytes} {rest : List Bytes}
    (hname : IsEntryName piece) (hentry : t.entry? (here ++ [piece]) = some .directory) :
    Route t follow links (here ++ [piece]) rest place →
    Route t follow links here (piece :: rest) place
  | last {links : ℕ} {here : Place} {piece : Bytes} {e : Entry} (hname : IsEntryName piece)
    (hentry : t.entry? (here ++ [piece]) = some e) (he : e ≠ .directory)
    (hlink : ∀ target, e = .link target → follow = false) :
    Route t follow links here [piece] (here ++ [piece])
  | through {links : ℕ} {here place : Place} {piece : Bytes} {rest : List Bytes} {target : Path}
    (hname : IsEntryName piece) (hentry : t.entry? (here ++ [piece]) = some (.link target))
    (hfollow : rest = [] → follow = true) (htarget : target ≠ []) :
    Route t follow links (if Path.isAbsolute target then [] else here)
      (Path.pieces target ++ rest) place →
    Route t follow (links + 1) here (piece :: rest) place

section

variable {t t' : FileTree} {follow : Bool} {links : ℕ} {here place : Place} {pieces : List Bytes}
  {e : Entry}

theorem walk_name {piece : Bytes} (h : IsEntryName piece) (rest : List Bytes) :
    t.walk follow links here (piece :: rest) = match t.entry? (here ++ [piece]) with
      | none => if rest.isEmpty then .ok (here ++ [piece], none) else .error .noEntry
      | some .directory => t.walk follow links (here ++ [piece]) rest
      | some (.link target) =>
        if rest.isEmpty && !follow then .ok (here ++ [piece], some (.link target))
        else match links with
          | 0 => .error .linkLoop
          | links + 1 =>
            if target.isEmpty then .error .noEntry
            else t.walk follow links (if Path.isAbsolute target then [] else here)
              (Path.pieces target ++ rest)
      | some e => if rest.isEmpty then .ok (here ++ [piece], some e) else .error .notDirectory := by
  rw [walk, if_neg h.ne_stay, if_neg h.ne_up]
  exact if_neg (Nat.not_lt.mpr h.length_le)

theorem walk_link {piece : Bytes} {rest : List Bytes} {target : Path} (h : IsEntryName piece)
    (hentry : t.entry? (here ++ [piece]) = some (.link target))
    (hfollow : rest = [] → follow = true) (htarget : target ≠ []) :
    t.walk follow (links + 1) here (piece :: rest) =
      t.walk follow links (if Path.isAbsolute target then [] else here)
        (Path.pieces target ++ rest) := by
  have hlast : ¬ (rest.isEmpty && !follow) = true := by simpa using hfollow
  have hne : ¬ target.isEmpty = true := by simpa using htarget
  rw [walk_name h, hentry]
  simp only [if_neg hlast, if_neg hne]

theorem route_of_walk (h : t.walk follow links here pieces = .ok (place, some e)) :
    t.Route follow links here pieces place ∧ t.entry? place = some e := by
  fun_induction walk t follow links here pieces with
  | case1 links here =>
    rw [Except.ok.injEq, Prod.mk.injEq] at h
    obtain ⟨rfl, hentry⟩ := h
    exact ⟨.done hentry, hentry⟩
  | case2 links here piece rest hpiece ih => exact ⟨.stay hpiece (ih h).1, (ih h).2⟩
  | case3 links here rest _ ih => exact ⟨.up (ih h).1, (ih h).2⟩
  | case7 links here piece rest hstay hup hlength there hentry ih =>
    have hname : IsEntryName piece := ⟨hstay, hup, Nat.not_lt.mp hlength⟩
    exact ⟨.down hname hentry (ih h).1, (ih h).2⟩
  | case8 links here piece rest hstay hup hlength there target hentry hlast =>
    obtain ⟨rfl, rfl⟩ : rest = [] ∧ follow = false := by simpa using hlast
    obtain ⟨rfl, rfl⟩ : there = place ∧ .link target = e := by simpa using h
    have hname : IsEntryName piece := ⟨hstay, hup, Nat.not_lt.mp hlength⟩
    exact ⟨.last hname hentry nofun fun _ _ ↦ rfl, hentry⟩
  | case11 here piece rest hstay hup hlength there target hentry hlast links htarget ih =>
    have hname : IsEntryName piece := ⟨hstay, hup, Nat.not_lt.mp hlength⟩
    have hfollow : rest = [] → follow = true := by simpa using hlast
    have hne : target ≠ [] := by simpa using htarget
    simp only [dite_eq_ite] at ih
    exact ⟨.through hname hentry hfollow hne (ih h).1, (ih h).2⟩
  | case12 links here piece rest hstay hup hlength there e' hdirectory hlink hentry hrest =>
    obtain rfl : rest = [] := by simpa using hrest
    obtain ⟨rfl, rfl⟩ : there = place ∧ e' = e := by simpa using h
    have hname : IsEntryName piece := ⟨hstay, hup, Nat.not_lt.mp hlength⟩
    exact ⟨.last hname hentry hdirectory fun target heq ↦ (hlink target heq).elim, hentry⟩
  | case4 | case5 | case6 | case9 | case10 | case13 => simp at h

theorem Route.walk_eq (h : t.Route follow links here pieces place) :
    t.walk follow links here pieces = .ok (place, t.entry? place) := by
  induction h with
  | done => rw [walk]
  | stay hpiece _ ih => rw [walk, if_pos hpiece, ih]
  | up _ ih => rw [walk, if_neg (by decide), if_pos rfl, ih]
  | down hname hentry _ ih => rw [walk_name hname, hentry, ih]
  | @last links here piece e hname hentry he hlink =>
    rw [walk_name hname, hentry]
    cases e with
    | directory => exact absurd rfl he
    | link target => simp [hlink target rfl]
    | file | tool | null | stream => rfl
  | through hname hentry hfollow htarget _ ih => rw [walk_link hname hentry hfollow htarget, ih]

theorem walk_eq_iff : t.walk follow links here pieces = .ok (place, some e) ↔
    t.Route follow links here pieces place ∧ t.entry? place = some e :=
  ⟨route_of_walk, fun h ↦ by rw [h.1.walk_eq, h.2]⟩

theorem Route.exists_entry (h : t.Route follow links here pieces place) :
    ∃ e, t.entry? place = some e := by
  induction h with
  | done hentry => exact ⟨_, hentry⟩
  | last _ hentry => exact ⟨_, hentry⟩
  | stay _ _ ih | up _ ih | down _ _ _ ih | through _ _ _ _ _ ih => exact ih

theorem Route.exists_named (h : t.Route true links here pieces place) :
    ∃ named, t.Route false links here pieces named ∧
      ∀ e, t.entry? named = some e → (∀ target, e ≠ .link target) → named = place := by
  induction h with
  | done hentry => exact ⟨_, .done hentry, fun _ _ _ ↦ rfl⟩
  | stay hpiece _ ih =>
    obtain ⟨named, hnamed, hsame⟩ := ih
    exact ⟨named, .stay hpiece hnamed, hsame⟩
  | up _ ih =>
    obtain ⟨named, hnamed, hsame⟩ := ih
    exact ⟨named, .up hnamed, hsame⟩
  | down hname hentry _ ih =>
    obtain ⟨named, hnamed, hsame⟩ := ih
    exact ⟨named, .down hname hentry hnamed, hsame⟩
  | last hname hentry he hlink =>
    exact ⟨_, .last hname hentry he fun _ _ ↦ rfl, fun _ _ _ ↦ rfl⟩
  | @through links here place piece rest target hname hentry _ htarget _ ih =>
    by_cases hrest : rest = []
    · subst hrest
      refine ⟨_, .last hname hentry nofun fun _ _ ↦ rfl, fun e he hlink ↦ ?_⟩
      rw [hentry, Option.some_inj] at he
      exact absurd he.symm (hlink target)
    · obtain ⟨named, hnamed, hsame⟩ := ih
      exact ⟨named, .through hname hentry (fun hnil ↦ absurd hnil hrest) htarget hnamed, hsame⟩

end

def Remnant (t' t : FileTree) : Prop :=
  ∀ place e, t'.entry? place = some e → t.entry? place = some e

def IsTree (t : FileTree) : Prop :=
  ∀ place name e, t.entry? (place ++ [name]) = some e → t.entry? place = some .directory

def Misses (answer : Except HostError (Place × Option Entry)) : Prop :=
  answer = .error .noEntry ∨ ∃ place, answer = .ok (place, none)

section

variable {t t' t'' : FileTree} {follow : Bool} {links : ℕ} {here place : Place}
  {pieces : List Bytes} {e : Entry}

theorem Remnant.refl (t : FileTree) : t.Remnant t := fun _ _ h ↦ h

theorem Remnant.trans (h : t''.Remnant t') (h' : t'.Remnant t) : t''.Remnant t :=
  fun place e he ↦ h' place e (h place e he)

theorem Remnant.entry?_eq (h : t'.Remnant t) (he : t.entry? place = some e) :
    t'.entry? place = some e ∨ t'.entry? place = none := by
  cases he' : t'.entry? place with
  | none => exact .inr rfl
  | some e' => exact .inl ((h place e' he').symm.trans he)

theorem Route.of_remnant (h : t'.Route follow links here pieces place) (ht : t'.Remnant t) :
    t.Route follow links here pieces place := by
  induction h with
  | done hentry => exact .done (ht _ _ hentry)
  | stay hpiece _ ih => exact .stay hpiece ih
  | up _ ih => exact .up ih
  | down hname hentry _ ih => exact .down hname (ht _ _ hentry) ih
  | last hname hentry he hlink => exact .last hname (ht _ _ hentry) he hlink
  | through hname hentry hfollow htarget _ ih =>
    exact .through hname (ht _ _ hentry) hfollow htarget ih

theorem misses_of_entry?_eq_none {piece : Bytes} (hname : IsEntryName piece)
    (h : t.entry? (here ++ [piece]) = none) (rest : List Bytes) :
    Misses (t.walk follow links here (piece :: rest)) := by
  rw [walk_name hname, h]
  by_cases hrest : rest.isEmpty = true
  · exact .inr ⟨_, if_pos hrest⟩
  · exact .inl (if_neg hrest)

theorem Route.not_misses (h : t.Route follow links here pieces place) :
    ¬ Misses (t.walk follow links here pieces) := by
  obtain ⟨e, he⟩ := h.exists_entry
  rw [h.walk_eq, he]
  rintro (hmiss | ⟨_, hmiss⟩)
  · exact absurd hmiss nofun
  · simp at hmiss

/-- In what is left of a tree a way is still there, or something on it is missing. -/
theorem Route.remnant (h : t.Route follow links here pieces place) (ht : t'.Remnant t) :
    t'.Route follow links here pieces place ∨ Misses (t'.walk follow links here pieces) := by
  induction h with
  | @done links here e hentry =>
    rcases ht.entry?_eq hentry with hkept | hlost
    · exact .inl (.done hkept)
    · exact .inr (.inr ⟨here, by rw [walk, hlost]⟩)
  | stay hpiece _ ih =>
    refine ih.imp (.stay hpiece) fun hmiss ↦ ?_
    rwa [walk, if_pos hpiece]
  | up _ ih =>
    refine ih.imp .up fun hmiss ↦ ?_
    rwa [walk, if_neg (by decide), if_pos rfl]
  | down hname hentry _ ih =>
    rcases ht.entry?_eq hentry with hkept | hlost
    · refine ih.imp (.down hname hkept) fun hmiss ↦ ?_
      rwa [walk_name hname, hkept]
    · exact .inr (misses_of_entry?_eq_none hname hlost _)
  | last hname hentry he hlink =>
    rcases ht.entry?_eq hentry with hkept | hlost
    · exact .inl (.last hname hkept he hlink)
    · exact .inr (misses_of_entry?_eq_none hname hlost _)
  | through hname hentry hfollow htarget _ ih =>
    rcases ht.entry?_eq hentry with hkept | hlost
    · refine ih.imp (.through hname hkept hfollow htarget) fun hmiss ↦ ?_
      rwa [walk_link hname hkept hfollow htarget]
    · exact .inr (misses_of_entry?_eq_none hname hlost _)

theorem Route.exists_directory (ht : t.IsTree) {init : List Bytes} {name : Bytes}
    (h : t.Route false links here (init ++ [name]) place) (hstay : ¬ (name = [] ∨ name = Path.dot))
    (hup : name ≠ Path.dotDot) :
    ∃ dir, t.Route true links here init dir ∧ t.entry? dir = some .directory ∧
      IsEntryName name ∧ place = dir ++ [name] := by
  -- a link on the way puts its pieces in front of the others, so that the last one stays the last
  generalize hpieces : init ++ [name] = pieces at h
  induction h generalizing init with
  | done => simp at hpieces
  | @stay links here place piece rest hpiece hroute ih =>
    cases init with
    | nil => simp_all
    | cons first init =>
      obtain ⟨rfl, rfl⟩ := List.cons.inj hpieces
      obtain ⟨dir, hdir, hrest⟩ := ih rfl
      exact ⟨dir, .stay hpiece hdir, hrest⟩
  | @up links here place rest hroute ih =>
    cases init with
    | nil => simp_all
    | cons first init =>
      obtain ⟨rfl, rfl⟩ := List.cons.inj hpieces
      obtain ⟨dir, hdir, hrest⟩ := ih rfl
      exact ⟨dir, .up hdir, hrest⟩
  | @down links here place piece rest hname hentry hroute ih =>
    cases init with
    | nil =>
      obtain ⟨rfl, rfl⟩ := List.cons.inj hpieces
      cases hroute
      exact ⟨here, .done (ht _ _ _ hentry), ht _ _ _ hentry, hname, rfl⟩
    | cons first init =>
      obtain ⟨rfl, rfl⟩ := List.cons.inj hpieces
      obtain ⟨dir, hdir, hrest⟩ := ih rfl
      exact ⟨dir, .down hname hentry hdir, hrest⟩
  | @last links here piece e hname hentry he hlink =>
    cases init with
    | nil =>
      obtain ⟨rfl, -⟩ := List.cons.inj hpieces
      exact ⟨here, .done (ht _ _ _ hentry), ht _ _ _ hentry, hname, rfl⟩
    | cons first init => simp at hpieces
  | @through links here place piece rest target hname hentry hfollow htarget hroute ih =>
    cases init with
    | nil =>
      obtain ⟨rfl, rfl⟩ := List.cons.inj hpieces
      exact absurd (hfollow rfl) (by decide)
    | cons first init =>
      obtain ⟨rfl, rfl⟩ := List.cons.inj hpieces
      obtain ⟨dir, hdir, hrest⟩ := ih (List.append_assoc _ _ _)
      exact ⟨dir, .through hname hentry (fun _ ↦ rfl) htarget hdir, hrest⟩

end

end IngestCheck.Host.FileTree
