import IngestCheck.Command.Display
import IngestCheck.Proofs.Display.Overlay

namespace IngestCheck

namespace Utf8

theorem piecesFrom_some_ne_nil (p : Partial) (bytes : Bytes) : piecesFrom (some p) bytes ≠ [] := by
  induction bytes generalizing p with
  | nil => exact List.cons_ne_nil _ _
  | cons b rest ih =>
    rw [piecesFrom, step]
    split
    · split
      · exact List.cons_ne_nil _ _
      · exact ih _
    · exact List.cons_ne_nil _ _

theorem lossy_ne_nil {bytes : Bytes} (h : bytes ≠ []) : lossy bytes ≠ [] := by
  obtain ⟨b, rest, rfl⟩ := List.exists_cons_of_ne_nil h
  have hlead : (lead b).1 ≠ [] ∨ ∃ p, (lead b).2 = some p := by
    unfold lead
    split_ifs <;> simp
  rw [lossy, ne_eq, List.map_eq_nil_iff, pieces, piecesFrom, step, List.append_eq_nil_iff]
  rintro ⟨hpieces, hrest⟩
  rcases hlead with hlead | ⟨p, hp⟩
  · exact hlead hpieces
  · rw [hp] at hrest
    exact piecesFrom_some_ne_nil p rest hrest

end Utf8

namespace Mask

variable {word mask : List Char}

theorem replace_eq_replaceFrom (hne : word ≠ []) (text : List Char) :
    replace word mask text = replaceFrom word mask 0 text := if_neg (by simpa using hne)

theorem overlaid_replaceFrom (hmask : mask ≠ []) (skip : Nat) (text : List Char) :
    Overlaid mask (replaceFrom word mask skip text) (text.drop skip) := by
  fun_induction replaceFrom word mask skip text with
  | case1 => simpa using Overlaid.nil
  | case2 skip c rest ih => exact ih
  | case3 c rest hword ih =>
    have h := ih.conceal hmask (List.Subset.refl mask) (c :: rest.take (word.length - 1))
    rwa [List.cons_append, List.take_append_drop] at h
  | case4 c rest hword ih => exact ih.keep c

theorem overlaid_replace (hmask : mask ≠ []) (text : List Char) :
    Overlaid mask (replace word mask text) text := by
  unfold replace
  split
  · exact .refl text
  · exact overlaid_replaceFrom hmask 0 text

/-- Replacing cannot bring a word about anew, not even across the seams of what it puts in. -/
theorem not_infix_replaceFrom (hne : word ≠ []) (hfree : word.Disjoint mask) (hmask : mask ≠ [])
    (skip : Nat) (text : List Char) : ¬ word <:+: replaceFrom word mask skip text := by
  fun_induction replaceFrom word mask skip text with
  | case1 => simpa using hne
  | case2 skip c rest ih => exact ih
  | case3 c rest hword ih =>
    intro h
    have hrest : Overlaid mask (mask ++ replaceFrom word mask (word.length - 1) rest) _ :=
      (Overlaid.refl _).insert (List.Subset.refl mask)
    exact ih (hrest.isInfix hne hfree h)
  | case4 c rest hword ih =>
    intro h
    rcases List.infix_cons_iff.mp h with h | h
    · -- an occurrence that begins here can be read in the text too, and there it was looked for
      have hshown := ((overlaid_replaceFrom hmask 0 rest).keep c).isPrefix hfree h
      exact hword (List.isPrefixOf_iff_prefix.mpr hshown)
    · exact ih h

theorem not_infix_replace (hne : word ≠ []) (hfree : word.Disjoint mask) (hmask : mask ≠ [])
    (text : List Char) : ¬ word <:+: replace word mask text := by
  rw [replace_eq_replaceFrom hne]
  exact not_infix_replaceFrom hne hfree hmask 0 text

theorem infix_of_infix_all (secrets : List (List Char)) {text u : List Char} (hne : u ≠ [])
    (hfree : u.Disjoint stars) (hu : u <:+: all secrets text) : u <:+: text := by
  induction secrets generalizing text with
  | nil => exact hu
  | cons secret secrets ih =>
    exact (overlaid_replace (List.cons_ne_nil _ _) text).isInfix hne hfree (ih hu)

theorem not_mem_of_infix_all {secrets : List (List Char)} {text : List Char} {u : List Char}
    (hne : u ≠ []) (hfree : u.Disjoint stars) (hu : u <:+: all secrets text) : u ∉ secrets := by
  induction secrets generalizing text with
  | nil => exact List.not_mem_nil
  | cons secret secrets ih =>
    rintro (_ | ⟨_, hmem⟩)
    · have hreplaced := infix_of_infix_all secrets hne hfree hu
      exact not_infix_replace hne hfree (List.cons_ne_nil _ _) text hreplaced
    · exact ih hu hmem

theorem replaceFrom_eq_drop (skip : Nat) (text : List Char) :
    replaceFrom word mask skip text = replaceFrom word mask 0 (text.drop skip) := by
  induction text generalizing skip with
  | nil => rw [List.drop_nil]; cases skip <;> rfl
  | cons c text ih =>
    cases skip with
    | zero => rfl
    | succ skip => rw [replaceFrom, ih, List.drop_succ_cons]

theorem replaceFrom_append (hne : word ≠ []) (mask text : List Char) :
    replaceFrom word mask 0 (word ++ text) = mask ++ replaceFrom word mask 0 text := by
  obtain ⟨c, tail, rfl⟩ := List.exists_cons_of_ne_nil hne
  have hword : (c :: tail).isPrefixOf (c :: (tail ++ text)) = true :=
    List.isPrefixOf_iff_prefix.mpr (List.prefix_append (c :: tail) text)
  rw [List.cons_append, replaceFrom, if_pos hword, replaceFrom_eq_drop, List.length_cons,
    Nat.add_sub_cancel, List.drop_left]

theorem replaceFrom_cons {c : Char} {text : List Char} (h : ¬ word <+: c :: text)
    (mask : List Char) :
    replaceFrom word mask 0 (c :: text) = c :: replaceFrom word mask 0 text := by
  rw [replaceFrom, if_neg fun hword ↦ h (List.isPrefixOf_iff_prefix.mp hword)]

theorem replace_self (hne : word ≠ []) : replace word mask word = mask := by
  have h := replaceFrom_append hne mask []
  rwa [List.append_nil, replaceFrom, List.append_nil, ← replace_eq_replaceFrom hne] at h

theorem replace_eq_self {text : List Char} (h : ¬ word <:+: text) :
    replace word mask text = text := by
  unfold replace
  split
  · rfl
  induction text with
  | nil => rfl
  | cons c text ih =>
    rw [replaceFrom_cons fun hword ↦ h hword.isInfix, ih fun hinfix ↦ h (List.infix_cons hinfix)]

end Mask

namespace ShellWord

def quotation : List Char := ['\'', '\\']

theorem overlaid_escape (word : List Char) : Overlaid quotation (escape word) word := by
  induction word with
  | nil => exact .nil
  | cons c word ih =>
    rw [escape, List.flatMap_cons]
    split
    · exact ih.conceal (List.cons_ne_nil _ _) (by decide) [c]
    · exact ih.keep c

theorem overlaid_quote (word : List Char) : Overlaid quotation (quote word) word := by
  unfold quote
  split
  · have hmark : '\'' ∈ quotation := by decide
    have h := (overlaid_escape word).append (Overlaid.nil.cover hmark [])
    simpa using h.cover hmark []
  · exact .refl word

end ShellWord

namespace Command

variable {c : Command}

theorem lossy_mem_masked {secret : Bytes} (hmem : secret ∈ c.secrets) (hne : secret ≠ []) :
    Utf8.lossy secret ∈ c.masked :=
  List.mem_map_of_mem (List.mem_filter.mpr ⟨hmem, by simpa using hne⟩)

theorem ne_nil_of_mem_masked {secret : List Char} (h : secret ∈ c.masked) : secret ≠ [] := by
  obtain ⟨bytes, hbytes, rfl⟩ := List.mem_map.mp h
  have hne : bytes ≠ [] := by simpa using (List.mem_filter.mp hbytes).2
  exact Utf8.lossy_ne_nil hne

theorem not_infix_line {secret : List Char} (hmem : secret ∈ c.masked)
    (hfree : secret.Disjoint ['*', ' ', '\'', '\\']) : ¬ secret <:+: c.displayLine.toList := by
  intro h
  have hne := ne_nil_of_mem_masked hmem
  have hspace : ' ' ∉ secret := fun hmem ↦ hfree hmem (by decide)
  rw [displayLine, String.toList_ofList, ShellWord.join, List.map_map] at h
  obtain ⟨quoted, hquoted, hoccurs⟩ := exists_infix_of_infix_intercalate hne hspace h
  obtain ⟨word, -, rfl⟩ := List.mem_map.mp hquoted
  have hshown : secret <:+: c.redact word := (ShellWord.overlaid_quote (c.redact word)).isInfix hne
    (List.disjoint_of_subset_right (by decide) hfree) hoccurs
  exact Mask.not_mem_of_infix_all hne (List.disjoint_of_subset_right (by decide) hfree) hshown hmem

/-- No secret can be read in what people see of a command, whatever its words and its other secrets
are. -/
theorem not_infix_displayLine (c : Command) {secret : Bytes} (hmem : secret ∈ c.secrets)
    (hne : secret ≠ []) (hfree : (Utf8.lossy secret).Disjoint ['*', ' ', '\'', '\\']) :
    ¬ Utf8.lossy secret <:+: c.displayLine.toList :=
  not_infix_line (lossy_mem_masked hmem hne) hfree

/-- Two secrets overlap, and the stars of the first meet a third. -/
def exampleCommand : Command where
  program := "tool"
  arguments := ["key=abcd", "it's bcdabc"]
  secrets := ["abc", "bcd", "*d"]

theorem not_infix_displayLine_overlapping :
    (("bcd" : Bytes) ∈ exampleCommand.secrets ∧ ("bcd" : Bytes) ≠ [] ∧
      (Utf8.lossy "bcd").Disjoint ['*', ' ', '\'', '\\']) ∧
      ¬ Utf8.lossy "bcd" <:+: exampleCommand.displayLine.toList := by
  have hmem : ("bcd" : Bytes) ∈ exampleCommand.secrets := by decide
  have hne : ("bcd" : Bytes) ≠ [] := by decide
  have hlossy : Utf8.lossy "bcd" = ['b', 'c', 'd'] := by decide
  have hfree : (Utf8.lossy "bcd").Disjoint ['*', ' ', '\'', '\\'] := by
    simp [hlossy]
  exact ⟨⟨hmem, hne, hfree⟩, exampleCommand.not_infix_displayLine hmem hne hfree⟩

end Command

end IngestCheck
