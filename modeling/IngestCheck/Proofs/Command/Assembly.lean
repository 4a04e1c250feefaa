import IngestCheck.Command.Basic

namespace IngestCheck.Command

def Piece.secrets : Piece → List Bytes
  | .secretFlag _ value => [value]
  | _ => []

def Piece.bind : Piece → Bindings → Bindings
  | .binding name value, bindings => bindings.insert name value
  | _, bindings => bindings

def Piece.move : Piece → Option Path → Option Path
  | .directory dir, _ => some dir
  | _, current => current

theorem add_eq (c : Command) (piece : Piece) : c.add piece =
    { program := c.program
      arguments := c.arguments ++ piece.words
      bindings := piece.bind c.bindings
      directory := piece.move c.directory
      secrets := c.secrets ++ piece.secrets } := by
  cases piece <;> simp [add, Piece.secrets, Piece.bind, Piece.move]

theorem foldl_add (c : Command) (pieces : List Piece) : pieces.foldl add c =
    { program := c.program
      arguments := c.arguments ++ pieces.flatMap Piece.words
      bindings := pieces.foldl (fun bindings piece ↦ piece.bind bindings) c.bindings
      directory := pieces.foldl (fun current piece ↦ piece.move current) c.directory
      secrets := c.secrets ++ pieces.flatMap Piece.secrets } := by
  induction pieces generalizing c with
  | nil => simp
  | cons piece pieces ih => simp [ih, add_eq]

section

variable (program : Bytes) (pieces : List Piece)

theorem build_eq : build program pieces =
    { program := program
      arguments := pieces.flatMap Piece.words
      bindings := pieces.foldl (fun bindings piece ↦ piece.bind bindings) ∅
      directory := pieces.foldl (fun current piece ↦ piece.move current) none
      secrets := pieces.flatMap Piece.secrets } := foldl_add { program } pieces

@[simp] theorem words_build :
    (build program pieces).words = program :: pieces.flatMap Piece.words := by
  rw [build_eq, words]

@[simp] theorem arguments_build :
    (build program pieces).arguments = pieces.flatMap Piece.words := by rw [build_eq]

@[simp] theorem secrets_build : (build program pieces).secrets = pieces.flatMap Piece.secrets := by
  rw [build_eq]

@[simp] theorem bindings_build : (build program pieces).bindings =
    pieces.foldl (fun bindings piece ↦ piece.bind bindings) ∅ := by rw [build_eq]

@[simp] theorem directory_build : (build program pieces).directory =
    pieces.foldl (fun current piece ↦ piece.move current) none := by rw [build_eq]

@[simp] theorem program_build : (build program pieces).program = program := by rw [build_eq]

end

end IngestCheck.Command
