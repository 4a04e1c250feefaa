import IngestCheck.Proofs.Display.Masking
import IngestCheck.Proofs.Text.Encoding
import IngestCheck.Proofs.Text.Pieces

namespace IngestCheck

namespace Mask

variable {word mask text shown : List Char} {n : ℕ}

/-- A text with so many occurrences of a word replaced, as they are met from left to right. -/
inductive Replaced (word mask : List Char) : ℕ → List Char → List Char → Prop
  | nil : Replaced word mask 0 [] []
  | keep {n : ℕ} {c : Char} {text shown : List Char} (hword : ¬ word <+: c :: text)
    (h : Replaced word mask n text shown) : Replaced word mask n (c :: text) (c :: shown)
  | change {n : ℕ} {text shown : List Char} (h : Replaced word mask n text shown) :
    Replaced word mask (n + 1) (word ++ text) (mask ++ shown)

theorem exists_replaced_replaceFrom (hne : word ≠ []) (mask text : List Char) :
    ∃ n, Replaced word mask n text (replaceFrom word mask 0 text) := by
  induction hlength : text.length using Nat.strong_induction_on generalizing text with
  | _ length ih =>
    subst hlength
    by_cases hword : word <+: text
    · obtain ⟨rest, rfl⟩ := hword
      have hpos := List.length_pos_iff.mpr hne
      obtain ⟨n, h⟩ := ih rest.length (by rw [List.length_append]; omega) rest rfl
      rw [replaceFrom_append hne]
      exact ⟨n + 1, h.change⟩
    · cases text with
      | nil => exact ⟨0, .nil⟩
      | cons c rest =>
        obtain ⟨n, h⟩ := ih rest.length (Nat.lt_succ_self _) rest rfl
        rw [replaceFrom_cons hword]
        exact ⟨n, h.keep hword⟩

theorem exists_replaced_replace (hne : word ≠ []) (mask text : List Char) :
    ∃ n, Replaced word mask n text (replace word mask text) := by
  rw [replace_eq_replaceFrom hne]
  exact exists_replaced_replaceFrom hne mask text

theorem Replaced.pos (h : Replaced word mask n text shown) (hne : word ≠ [])
    (hoccurs : word <:+: text) : 0 < n := by
  induction h with
  | nil => exact absurd (List.infix_nil.mp hoccurs) hne
  | keep hword _ ih => exact ih ((List.infix_cons_iff.mp hoccurs).resolve_left hword)
  | change => exact Nat.succ_pos _

end Mask

namespace Utf8

theorem lossy_encode (text : List Char) : lossy (encode text) = text := by
  have h := pieces_encode_append text []
  rw [List.append_nil] at h
  have hshown : (Piece.shown ∘ Piece.char) = id := rfl
  have hnil : pieces [] = [] := rfl
  rw [lossy, h, hnil, List.append_nil, List.map_map, hshown, List.map_id]

theorem infix_lossy_of_infix {text : List Char} (hne : text ≠ []) {bytes : Bytes}
    (h : encode text <:+: bytes) : text <:+: lossy bytes := by
  obtain ⟨before, after, rfl⟩ := h
  rw [lossy_append hne]
  exact List.infix_append (lossy before) text (lossy after)

end Utf8

namespace Command

/-- What becomes of a word if one text is secret: where its bytes stand, it is read and masked, and
if they stand nowhere, the word is shown as it is read. -/
structure Unmissed (c : Command) (secret : String) (word : Bytes) : Prop where
  lossy_iff : ∀ text, Utf8.lossy word = text ↔
    ∃ pieces, Utf8.Decoded word pieces ∧ pieces.map Utf8.Piece.shown = text
  lossy_append : ∀ before after,
    Utf8.lossy (before ++ Bytes.ofString secret ++ after) =
      Utf8.lossy before ++ secret.toList ++ Utf8.lossy after
  read : Bytes.ofString secret <:+: word → secret.toList <:+: Utf8.lossy word
  masked : ∃ n, Mask.Replaced secret.toList Mask.stars n (Utf8.lossy word) (c.redact word) ∧
    (Bytes.ofString secret <:+: word → 0 < n)
  gone : '*' ∉ secret.toList → ¬ secret.toList <:+: c.redact word
  kept : Utf8.replacement ∉ secret.toList → ¬ Bytes.ofString secret <:+: word →
    c.redact word = Utf8.lossy word

theorem redact_eq_replace {c : Command} {secret : String} (hne : secret ≠ "")
    (hsecrets : c.secrets = [Bytes.ofString secret]) (word : Bytes) :
    c.redact word = Mask.replace secret.toList Mask.stars (Utf8.lossy word) := by
  have hmasked : c.masked = [secret.toList] := by
    have hkept : [Bytes.ofString secret].filter (!·.isEmpty) = [Bytes.ofString secret] := by
      simpa [Bytes.ofString_eq_nil_iff] using hne
    have hshown : Utf8.lossy (Bytes.ofString secret) = secret.toList :=
      Utf8.lossy_encode secret.toList
    rw [masked, hsecrets, hkept, List.map_singleton, hshown]
  rw [redact, hmasked]
  rfl

/-- Reading bytes as a text hides no secret from masking, and makes none up. -/
theorem redact_unmissed (c : Command) {secret : String} (hne : secret ≠ "")
    (hsecrets : c.secrets = [Bytes.ofString secret]) (word : Bytes) : c.Unmissed secret word := by
  have htext : secret.toList ≠ [] := by simpa using hne
  have hredact := redact_eq_replace hne hsecrets word
  constructor
  case lossy_iff =>
    intro text
    constructor
    · intro htext
      exact ⟨_, Utf8.decoded_pieces word, htext⟩
    · rintro ⟨pieces, hpieces, htext⟩
      rw [hpieces.unique (Utf8.decoded_pieces word)] at htext
      exact htext
  case lossy_append => exact Utf8.lossy_append htext
  case read => exact Utf8.infix_lossy_of_infix htext
  case masked =>
    obtain ⟨n, hn⟩ := Mask.exists_replaced_replace htext Mask.stars (Utf8.lossy word)
    rw [hredact]
    exact ⟨n, hn, fun hoccurs ↦ hn.pos htext (Utf8.infix_lossy_of_infix htext hoccurs)⟩
  case gone =>
    intro hstar
    have hfree : secret.toList.Disjoint Mask.stars := by simpa [Mask.stars] using hstar
    rw [hredact]
    exact Mask.not_infix_replace htext hfree (List.cons_ne_nil _ _) _
  case kept =>
    intro hfree hoccurs
    rw [hredact]
    exact Mask.replace_eq_self fun hread ↦ hoccurs (Utf8.infix_of_infix_lossy hfree hread)

def exampleKeyed : Command where
  program := "tool"
  secrets := [Bytes.ofString "clé"]

/-- A character is cut off before the secret, and one begins with nothing to follow behind it. -/
theorem redact_unmissed_cutOff :
    let word := [0xF0, 0x9F, 0x98] ++ Bytes.ofString "clé" ++ [0xC3]
    ("clé" ≠ "" ∧ exampleKeyed.secrets = [Bytes.ofString "clé"]) ∧
      exampleKeyed.Unmissed "clé" word ∧
      exampleKeyed.redact word = "\uFFFD***\uFFFD".toList := by
  have hne : "clé" ≠ "" := by decide
  exact ⟨⟨hne, rfl⟩, exampleKeyed.redact_unmissed hne rfl _, by decide⟩

end Command

end IngestCheck
