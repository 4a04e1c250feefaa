import IngestCheck.Proofs.Display.Masking

namespace IngestCheck

namespace ShellWord

inductive Place where
  | gap
  | inside (word : List Char)
  | quoted (word : List Char)
  | escaped (word : List Char)
  deriving DecidableEq, Repr

def blanks : List Char := [' ', '\t', '\n']

def enter (reserved word : List Char) (c : Char) : Option Place :=
  if c = '\'' then some (.quoted word)
  else if c = '\\' then some (.escaped word)
  else if c ∈ reserved then none
  else some (.inside (word ++ [c]))

def readFrom (reserved : List Char) : Place → List Char → Option (List (List Char))
  | .gap, [] => some []
  | .inside word, [] => some [word]
  | .quoted _, [] => none
  | .escaped _, [] => none
  | .gap, c :: rest =>
    if c ∈ blanks then readFrom reserved .gap rest
    else (enter reserved [] c).bind fun place ↦ readFrom reserved place rest
  | .inside word, c :: rest =>
    if c ∈ blanks then (readFrom reserved .gap rest).map (word :: ·)
    else (enter reserved word c).bind fun place ↦ readFrom reserved place rest
  | .quoted word, c :: rest =>
    if c = '\'' then readFrom reserved (.inside word) rest
    else readFrom reserved (.quoted (word ++ [c])) rest
  | .escaped word, c :: rest => readFrom reserved (.inside (word ++ [c])) rest

/-- The words of a line. Blanks separate them, single quotes enclose what is taken as it is, a
backslash stands before such a character, and pieces that touch are one word. -/
def read (reserved line : List Char) : Option (List (List Char)) := readFrom reserved .gap line

def meaningful : List Char := "|&;<>()$\x60\"*?[#~=%".toList

section

variable {reserved : List Char}

theorem enter_of_not_special (hreserved : reserved ⊆ special) {c : Char} (hc : c ∉ special)
    (word : List Char) : enter reserved word c = some (.inside (word ++ [c])) := by
  have hquote : c ≠ '\'' := fun h ↦ hc (h ▸ by decide)
  have hbackslash : c ≠ '\\' := fun h ↦ hc (h ▸ by decide)
  rw [enter, if_neg hquote, if_neg hbackslash, if_neg fun h ↦ hc (hreserved h)]

theorem not_blank_of_not_special {c : Char} (hc : c ∉ special) : c ∉ blanks := by
  have hblanks : blanks ⊆ special := by decide
  exact fun h ↦ hc (hblanks h)

theorem readFrom_bare (hreserved : reserved ⊆ special) {bare : List Char}
    (hbare : ∀ c ∈ bare, c ∉ special) (word rest : List Char) :
    readFrom reserved (.inside word) (bare ++ rest) =
      readFrom reserved (.inside (word ++ bare)) rest := by
  induction bare generalizing word with
  | nil => rw [List.append_nil, List.nil_append]
  | cons c bare ih =>
    obtain ⟨hc, hbare⟩ := List.forall_mem_cons.mp hbare
    rw [List.cons_append, readFrom, if_neg (not_blank_of_not_special hc),
      enter_of_not_special hreserved hc, Option.bind_some, ih hbare, List.append_assoc,
      List.singleton_append]

theorem readFrom_escape (word text rest : List Char) :
    readFrom reserved (.quoted word) (escape text ++ '\'' :: rest) =
      readFrom reserved (.inside (word ++ text)) rest := by
  induction text generalizing word with
  | nil => simp [escape, readFrom]
  | cons c text ih =>
    rw [escape, List.flatMap_cons, ← escape, List.append_cons word c text, ← ih]
    by_cases hc : c = '\''
    · subst hc
      -- it ends the quotes, stands behind a backslash outside them, and they begin again
      simp [readFrom, enter, blanks]
    · simp [readFrom, hc]

theorem readFrom_quote (hreserved : reserved ⊆ special) (word rest : List Char) :
    readFrom reserved .gap (quote word ++ rest) = readFrom reserved (.inside word) rest := by
  unfold quote
  split
  · have hopen (text : List Char) :
        readFrom reserved .gap ('\'' :: text) = readFrom reserved (.quoted []) text := rfl
    rw [List.append_assoc, List.singleton_append, List.cons_append, hopen, readFrom_escape,
      List.nil_append]
  · rename_i h
    obtain ⟨hne, hbare⟩ : word ≠ [] ∧ ∀ c ∈ word, c ∉ special := by
      simpa [isBare] using h
    obtain ⟨c, word, rfl⟩ := List.exists_cons_of_ne_nil hne
    obtain ⟨hc, hbare⟩ := List.forall_mem_cons.mp hbare
    rw [List.cons_append, readFrom, if_neg (not_blank_of_not_special hc),
      enter_of_not_special hreserved hc, Option.bind_some, List.nil_append,
      readFrom_bare hreserved hbare, List.singleton_append]

theorem read_join (hreserved : reserved ⊆ special) (words : List (List Char)) :
    read reserved (join words) = some words := by
  unfold read join
  induction words with
  | nil => rfl
  | cons word words ih =>
    cases words with
    | nil => simpa [readFrom] using readFrom_quote hreserved word []
    | cons next words =>
      rw [List.map_cons, List.map_cons, List.intercalate_cons_cons, List.append_assoc,
        readFrom_quote hreserved, List.singleton_append, readFrom, if_pos (by decide)]
      rw [← List.map_cons, ih, Option.map_some]

end

/-- Words that stand bare, quoted, empty, and with a quote inside. -/
example : read meaningful "a 'b c' '' 'it'\\''s'".toList =
    some ["a".toList, "b c".toList, [], "it's".toList] := by decide

end ShellWord

theorem Mask.all_eq_self {secrets : List (List Char)} {text : List Char}
    (h : ∀ secret ∈ secrets, ¬ secret <:+: text) : all secrets text = text := by
  induction secrets with
  | nil => rfl
  | cons secret secrets ih =>
    obtain ⟨hsecret, hsecrets⟩ := List.forall_mem_cons.mp h
    rw [all, List.foldl_cons, replace_eq_self hsecret, ← all, ih hsecrets]

namespace Command

theorem redact_eq_lossy {c : Command} {word : Bytes}
    (h : ∀ secret ∈ c.secrets, secret ≠ [] → ¬ Utf8.lossy secret <:+: Utf8.lossy word) :
    c.redact word = Utf8.lossy word := by
  refine Mask.all_eq_self fun secret hsecret ↦ ?_
  obtain ⟨bytes, hbytes, rfl⟩ := List.mem_map.mp hsecret
  obtain ⟨hmem, hne⟩ := List.mem_filter.mp hbytes
  exact h bytes hmem (by simpa using hne)

/-- What a reader gets from the line that shows a command: its words in order, masked where they
hold a secret and else as they are. Nothing outside quotes has a meaning to the shell. -/
structure ReadsBack (c : Command) : Prop where
  read_eq : ShellWord.read [] c.displayLine.toList = some (c.words.map c.redact)
  inert : ShellWord.read ShellWord.meaningful c.displayLine.toList = some (c.words.map c.redact)
  length_eq : (c.words.map c.redact).length = 1 + c.arguments.length
  unmasked (word : Bytes) : word ∈ c.words →
    (∀ secret ∈ c.secrets, secret ≠ [] → ¬ Utf8.lossy secret <:+: Utf8.lossy word) →
    c.redact word = Utf8.lossy word

/-- Every command reads back from the line that shows it. -/
theorem displayLine_readsBack (c : Command) : c.ReadsBack where
  read_eq := by
    rw [displayLine, String.toList_ofList, ShellWord.read_join (List.nil_subset _)]
  inert := by
    rw [displayLine, String.toList_ofList, ShellWord.read_join (by decide)]
  length_eq := by rw [List.length_map, words, List.length_cons, Nat.add_comm]
  unmasked _ _ h := redact_eq_lossy h

end Command

end IngestCheck
