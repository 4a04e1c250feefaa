import IngestCheck.Proofs.Command.Assembly
import IngestCheck.Proofs.Command.Lookup
import Mathlib.Data.List.Induction

namespace IngestCheck

section

variable {ι β : Type}

theorem getLast?_filterMap_concat (given? : ι → Option β) (items : List ι) (i : ι) :
    ((items ++ [i]).filterMap given?).getLast? =
      (given? i).or (items.filterMap given?).getLast? := by
  rw [List.filterMap_append, List.getLast?_append]
  cases hgiven : given? i <;> simp [hgiven]

theorem filterMap_eq_of_filter_eq {given? : ι → Option β} {p : ι → Prop} [DecidablePred p]
    (hgiven : ∀ i, ¬ p i → given? i = none) {items items' : List ι}
    (h : items.filter p = items'.filter p) :
    items.filterMap given? = items'.filterMap given? := by
  have hfilter (items : List ι) : (items.filter p).filterMap given? = items.filterMap given? := by
    rw [List.filterMap_filter]
    refine List.filterMap_congr fun i _ ↦ ?_
    by_cases hp : p i
    · simp [hp]
    · simp [hp, hgiven i hp]
  rw [← hfilter items, h, hfilter]

end

namespace Command

inductive Spelled : List Piece → List Bytes → List Bytes → Prop
  | nil : Spelled [] [] []
  | argument (word : Bytes) {pieces words secrets} (h : Spelled pieces words secrets) :
    Spelled (.argument word :: pieces) (word :: words) secrets
  | arguments (given : List Bytes) {pieces words secrets} (h : Spelled pieces words secrets) :
    Spelled (.arguments given :: pieces) (given ++ words) secrets
  | flag (name : String) (value : Bytes) {pieces words secrets}
    (h : Spelled pieces words secrets) :
    Spelled (.flag name value :: pieces) (Bytes.ofString name :: value :: words) secrets
  | secretFlag (name : String) (value : Bytes) {pieces words secrets}
    (h : Spelled pieces words secrets) :
    Spelled (.secretFlag name value :: pieces) (Bytes.ofString name :: value :: words)
      (value :: secrets)
  | binding (name : String) (value : Bytes) {pieces words secrets}
    (h : Spelled pieces words secrets) : Spelled (.binding name value :: pieces) words secrets
  | directory (dir : Path) {pieces words secrets} (h : Spelled pieces words secrets) :
    Spelled (.directory dir :: pieces) words secrets

def Piece.bound? (name : String) : Piece → Option Bytes
  | .binding n value => if n = name then some value else none
  | _ => none

def Piece.directory? : Piece → Option Path
  | .directory dir => some dir
  | _ => none

def LastGiven {β : Type} (given? : Piece → Option β) (pieces : List Piece) (b : β) : Prop :=
  ∃ before piece after, pieces = before ++ piece :: after ∧ given? piece = some b ∧
    ∀ later ∈ after, given? later = none

inductive Part where
  | words
  | variable (name : String)
  | directory
  deriving DecidableEq

def Piece.part : Piece → Part
  | .argument _ | .arguments _ | .flag .. | .secretFlag .. => .words
  | .binding name _ => .variable name
  | .directory _ => .directory

section

variable (program : Bytes) {pieces pieces' : List Piece}

theorem spelled_flatMap (pieces : List Piece) :
    Spelled pieces (pieces.flatMap Piece.words) (pieces.flatMap Piece.secrets) := by
  induction pieces with
  | nil => exact .nil
  | cons piece pieces ih =>
    cases piece with
    | argument word => exact .argument word ih
    | arguments given => exact .arguments given ih
    | flag name value => exact .flag name value ih
    | secretFlag name value => exact .secretFlag name value ih
    | binding name value => exact .binding name value ih
    | directory dir => exact .directory dir ih

theorem foldl_eq_getLast? {σ β : Type} (step : σ → Piece → σ) (read : σ → Option β)
    (given? : Piece → Option β)
    (hstep : ∀ s piece, read (step s piece) = (given? piece).or (read s)) {s : σ}
    (hs : read s = none) (pieces : List Piece) :
    read (pieces.foldl step s) = (pieces.filterMap given?).getLast? := by
  induction pieces using List.reverseRecOn with
  | nil => exact hs
  | append_singleton pieces piece ih =>
    rw [List.foldl_concat, hstep, ih, getLast?_filterMap_concat]

theorem getLast?_eq_some_iff_lastGiven {β : Type} {given? : Piece → Option β} {b : β} :
    (pieces.filterMap given?).getLast? = some b ↔ LastGiven given? pieces b := by
  rw [List.getLast?_filterMap, List.findSome?_eq_some_iff]
  constructor
  · rintro ⟨after, piece, before, heq, hgiven, hlater⟩
    refine ⟨before.reverse, piece, after.reverse, ?_, hgiven, ?_⟩
    · simpa using congrArg List.reverse heq
    · simpa using hlater
  · rintro ⟨before, piece, after, rfl, hgiven, hlater⟩
    exact ⟨after.reverse, piece, before.reverse, by simp, hgiven, by simpa using hlater⟩

theorem get?_bind (piece : Piece) (b : Bindings) (name : String) :
    (piece.bind b).get? name = (piece.bound? name).or (b.get? name) := by
  cases piece with
  | binding n value =>
    rw [Piece.bind, Bindings.get?_insert, Piece.bound?]
    by_cases h : n = name
    · simp [h]
    · simp [h, Ne.symm h]
  | argument | arguments | flag | secretFlag | directory => rfl

theorem move_eq (piece : Piece) (current : Option Path) :
    piece.move current = piece.directory?.or current := by
  cases piece <;> rfl

theorem get?_build (pieces : List Piece) (name : String) :
    (build program pieces).bindings.get? name =
      (pieces.filterMap (Piece.bound? name)).getLast? := by
  rw [bindings_build]
  exact foldl_eq_getLast? _ (·.get? name) _ (fun b piece ↦ get?_bind piece b name)
    (Bindings.get?_empty name) pieces

theorem directory_build_eq (pieces : List Piece) : (build program pieces).directory =
    (pieces.filterMap Piece.directory?).getLast? := by
  rw [directory_build]
  exact foldl_eq_getLast? _ id _ (fun current piece ↦ move_eq piece current) rfl pieces

theorem flatMap_eq_of_filter_eq {β : Type} {f : Piece → List β} {part : Part}
    (hf : ∀ piece, piece.part ≠ part → f piece = [])
    (h : pieces.filter (·.part = part) = pieces'.filter (·.part = part)) :
    pieces.flatMap f = pieces'.flatMap f := by
  have hfilter (pieces : List Piece) :
      (pieces.filter (·.part = part)).flatMap f = pieces.flatMap f := by
    induction pieces with
    | nil => rfl
    | cons piece pieces ih =>
      by_cases hpart : piece.part = part
      · simp [hpart, ih]
      · simp [hpart, ih, hf piece hpart]
  rw [← hfilter pieces, h, hfilter]

theorem words_eq_nil {piece : Piece} (h : piece.part ≠ .words) : piece.words = [] := by
  cases piece with
  | argument | arguments | flag | secretFlag => exact absurd rfl h
  | binding | directory => rfl

theorem secrets_eq_nil {piece : Piece} (h : piece.part ≠ .words) : piece.secrets = [] := by
  cases piece with
  | argument | arguments | flag | secretFlag => exact absurd rfl h
  | binding | directory => rfl

theorem bound?_eq_none_iff {piece : Piece} {name : String} :
    piece.bound? name = none ↔ piece.part ≠ .variable name := by
  cases piece <;> simp [Piece.bound?, Piece.part]

theorem directory?_eq_none_iff {piece : Piece} :
    piece.directory? = none ↔ piece.part ≠ .directory := by
  cases piece <;> simp [Piece.directory?, Piece.part]

/-- The order matters only among pieces of one part. -/
theorem build_eq_of_filter_eq
    (h : ∀ part, pieces.filter (·.part = part) = pieces'.filter (·.part = part)) :
    build program pieces = build program pieces' := by
  have hwords : pieces.flatMap Piece.words = pieces'.flatMap Piece.words :=
    flatMap_eq_of_filter_eq (fun _ ↦ words_eq_nil) (h .words)
  have hsecrets : pieces.flatMap Piece.secrets = pieces'.flatMap Piece.secrets :=
    flatMap_eq_of_filter_eq (fun _ ↦ secrets_eq_nil) (h .words)
  have hbindings : (build program pieces).bindings = (build program pieces').bindings := by
    refine Bindings.eq_of_get?_eq fun name ↦ ?_
    rw [get?_build, get?_build,
      filterMap_eq_of_filter_eq (fun _ ↦ bound?_eq_none_iff.mpr) (h (.variable name))]
  have hdirectory : (build program pieces).directory = (build program pieces').directory := by
    rw [directory_build_eq, directory_build_eq,
      filterMap_eq_of_filter_eq (fun _ ↦ directory?_eq_none_iff.mpr) (h .directory)]
  rw [bindings_build, bindings_build] at hbindings
  rw [directory_build, directory_build] at hdirectory
  rw [build_eq, build_eq, hwords, hsecrets, hbindings, hdirectory]

theorem filter_part_swap {piece piece' : Piece} (hpart : piece.part ≠ piece'.part)
    (before after : List Piece) (part : Part) :
    (before ++ piece :: piece' :: after).filter (·.part = part) =
      (before ++ piece' :: piece :: after).filter (·.part = part) := by
  rw [List.filter_append, List.filter_append]
  by_cases h : piece.part = part
  · have h' : piece'.part ≠ part := fun heq ↦ hpart (h.trans heq.symm)
    simp [h, h']
  · simp [List.filter_cons, h]

end

/-- What a command comes to that is built from pieces, and which pieces may change places. -/
structure Assembled (program : Bytes) (pieces : List Piece) : Prop where
  started : (build program pieces).program = program
  spelled : Spelled pieces (build program pieces).arguments (build program pieces).secrets
  paired (before : List Piece) (name : String) (value : Bytes) (after : List Piece) :
    pieces = before ++ .secretFlag name value :: after →
      let c := build program pieces
      let c₀ := build program before
      c.arguments[c₀.arguments.length]? = some (Bytes.ofString name) ∧
        c.arguments[c₀.arguments.length + 1]? = some value ∧
        c.secrets[c₀.secrets.length]? = some value
  bound (name : String) (value : Bytes) :
    (build program pieces).bindings.get? name = some value ↔
      LastGiven (Piece.bound? name) pieces value
  entries (name : String) (value : Bytes) :
    (name, value) ∈ (build program pieces).bindings.entries ↔
      LastGiven (Piece.bound? name) pieces value
  unbound (name : String) : (build program pieces).bindings.get? name = none ↔
    ∀ piece ∈ pieces, piece.part ≠ .variable name
  settled (dir : Path) : (build program pieces).directory = some dir ↔
    LastGiven Piece.directory? pieces dir
  unsettled : (build program pieces).directory = none ↔
    ∀ piece ∈ pieces, piece.part ≠ .directory
  swapped (before : List Piece) (piece piece' : Piece) (after : List Piece) :
    pieces = before ++ piece :: piece' :: after → piece.part ≠ piece'.part →
      build program pieces = build program (before ++ piece' :: piece :: after)
  regrouped (pieces' : List Piece) :
    (∀ part, pieces.filter (·.part = part) = pieces'.filter (·.part = part)) →
      build program pieces = build program pieces'

/-- Whatever pieces a command is built from, the words and the secrets add up in step, a variable
and the directory keep what was said last, and no part of the command shows how the pieces of
another were placed. -/
theorem build_assembled (program : Bytes) (pieces : List Piece) : Assembled program pieces where
  started := program_build program pieces
  spelled := by
    rw [arguments_build, secrets_build]
    exact spelled_flatMap pieces
  paired before name value after := by
    rintro rfl
    simp [Piece.words, Piece.secrets]
  bound name value := by rw [get?_build, getLast?_eq_some_iff_lastGiven]
  entries name value := by
    rw [Bindings.mem_entries_iff, get?_build, getLast?_eq_some_iff_lastGiven]
  unbound name := by
    simp only [get?_build, List.getLast?_eq_none_iff, List.filterMap_eq_nil_iff, bound?_eq_none_iff]
  settled dir := by rw [directory_build_eq, getLast?_eq_some_iff_lastGiven]
  unsettled := by
    simp only [directory_build_eq, List.getLast?_eq_none_iff, List.filterMap_eq_nil_iff,
      directory?_eq_none_iff]
  swapped before piece piece' after := by
    rintro rfl hpart
    exact build_eq_of_filter_eq program (filter_part_swap hpart before after)
  regrouped _ h := build_eq_of_filter_eq program h

end Command

end IngestCheck
