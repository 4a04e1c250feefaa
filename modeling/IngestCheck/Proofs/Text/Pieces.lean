import IngestCheck.Proofs.Text.Decoding

namespace IngestCheck.Utf8

/-- Bytes at which no character stands: one is cut off there, or the first is out of place. There
are as many of them as a character could have begun with. -/
structure Stray (bad rest : Bytes) : Prop where
  ne_nil : bad ≠ []
  begins : bad.length = 1 ∨ ∃ c, bad <+: String.utf8EncodeChar c
  illFormed : ∀ c, ¬ String.utf8EncodeChar c <+: bad ++ rest
  longest : ∀ longer, longer <+: bad ++ rest → (∃ c, longer <+: String.utf8EncodeChar c) →
    longer.length ≤ bad.length

inductive Decoded : Bytes → List Piece → Prop
  | nil : Decoded [] []
  | char (c : Char) {rest : Bytes} {pieces : List Piece} (h : Decoded rest pieces) :
    Decoded (String.utf8EncodeChar c ++ rest) (.char c :: pieces)
  | invalid {bad rest : Bytes} {pieces : List Piece} (hbad : Stray bad rest)
    (h : Decoded rest pieces) : Decoded (bad ++ rest) (.invalid bad :: pieces)

def Piece.bytes : Piece → Bytes
  | .char c => String.utf8EncodeChar c
  | .invalid bad => bad

section

variable {bytes bad rest : Bytes} {p : Partial}

theorem run_isPrefix {c : Char} (h : bytes <+: String.utf8EncodeChar c) :
    (run none bytes).1 <+: [.char c] := by
  obtain ⟨rest, hrest⟩ := h
  have hrun := run_append none bytes rest
  rw [hrest, run_utf8EncodeChar, Prod.mk.injEq] at hrun
  exact ⟨_, hrun.1.symm⟩

theorem stray_of_refused (hne : bad ≠ [])
    (hbegins : bad.length = 1 ∨ ∃ c, bad <+: String.utf8EncodeChar c)
    (hpieces : ∃ more, pieces (bad ++ rest) = .invalid bad :: more)
    (hnext : ∀ b ∈ rest.head?, ∃ more, (run none (bad ++ [b])).1 = .invalid bad :: more) :
    Stray bad rest := by
  obtain ⟨more, hpieces⟩ := hpieces
  refine ⟨hne, hbegins, ?_, ?_⟩
  · rintro c ⟨after, hafter⟩
    rw [← hafter, pieces_utf8EncodeChar_append] at hpieces
    cases hpieces
  · rintro longer hlonger ⟨c, hc⟩
    by_contra hlength
    obtain ⟨further, rfl⟩ : bad <+: longer :=
      List.prefix_of_prefix_length_le (List.prefix_append bad rest) hlonger (by omega)
    rw [List.prefix_append_right_inj] at hlonger
    cases further with
    | nil => simp at hlength
    | cons b further =>
      -- with one byte more no character begins like that, and so with none
      obtain ⟨after, rfl⟩ := hlonger
      obtain ⟨found, hfound⟩ := hnext b rfl
      have hb : bad ++ [b] <+: String.utf8EncodeChar c := by
        refine List.IsPrefix.trans ?_ hc
        exact ⟨further, List.append_assoc bad [b] further⟩
      have hchar := run_isPrefix hb
      rw [hfound, List.cons_prefix_cons] at hchar
      cases hchar.1

theorem stray_singleton {b : UInt8} (hlead : lead b = ([.invalid [b]], none)) (rest : Bytes) :
    Stray [b] rest ∧ pieces (b :: rest) = .invalid [b] :: pieces rest := by
  have hrun : run none [b] = ([.invalid [b]], none) := (run_singleton none b).trans hlead
  have hpieces : pieces ([b] ++ rest) = .invalid [b] :: pieces rest := by
    rw [pieces, piecesFrom_append, hrun]
    rfl
  refine ⟨stray_of_refused (List.cons_ne_nil _ _) (.inl rfl) ⟨_, hpieces⟩ fun b' _ ↦ ?_, hpieces⟩
  rw [run_append, hrun]
  exact ⟨_, rfl⟩

namespace Partial.Sound

theorem raw_ne_nil (h : p.Sound) : p.raw ≠ [] := by
  intro hraw
  have hreached := h.reached
  rw [hraw] at hreached
  cases hreached

theorem pieces_append (h : p.Sound) (bytes : Bytes) :
    pieces (p.raw ++ bytes) = piecesFrom (some p) bytes := by
  rw [pieces, piecesFrom_append, h.reached, List.nil_append]

theorem stray (h : p.Sound) (rest : Bytes)
    (hrest : ∀ b ∈ rest.head?, ¬ (p.low ≤ b ∧ b ≤ p.high)) :
    Stray p.raw rest ∧ pieces (p.raw ++ rest) = .invalid p.raw :: pieces rest := by
  have hpieces : pieces (p.raw ++ rest) = .invalid p.raw :: pieces rest := by
    rw [h.pieces_append]
    cases rest with
    | nil => rfl
    | cons b rest =>
      rw [piecesFrom, step_refused (hrest b rfl)]
      rfl
  refine ⟨stray_of_refused h.raw_ne_nil (.inr h.exists_prefix) ⟨_, hpieces⟩ fun b hb ↦ ?_, hpieces⟩
  rw [run_append, h.reached, run_singleton, step_refused (hrest b hb)]
  exact ⟨_, rfl⟩

end Partial.Sound

theorem decoded_cons (b : UInt8) (hrest : Decoded rest (pieces rest))
    (hbegun : ∀ p : Partial, p.Sound → Decoded (p.raw ++ rest) (pieces (p.raw ++ rest))) :
    Decoded (b :: rest) (pieces (b :: rest)) := by
  rcases lead_cases b with ⟨-, hbytes⟩ | hlead | ⟨p, -, hraw, hp⟩
  · have h := Decoded.char (Char.ofNat b.toNat) hrest
    rw [← pieces_utf8EncodeChar_append, hbytes] at h
    exact h
  · obtain ⟨hstray, hpieces⟩ := stray_singleton hlead rest
    rw [hpieces]
    exact .invalid hstray hrest
  · have h := hbegun p hp
    rwa [hraw] at h

/-- The decoder finds what is to be found, also in what is left after the beginning of a
character. -/
theorem decoded_append (bytes : Bytes) : Decoded bytes (pieces bytes) ∧
    ∀ p : Partial, p.Sound → Decoded (p.raw ++ bytes) (pieces (p.raw ++ bytes)) := by
  induction bytes with
  | nil =>
    refine ⟨.nil, fun p hp ↦ ?_⟩
    obtain ⟨hstray, hpieces⟩ := hp.stray [] fun b hb ↦ nomatch hb
    rw [hpieces]
    exact .invalid hstray .nil
  | cons b rest ih =>
    obtain ⟨hrest, hbegun⟩ := ih
    have hcons := decoded_cons b hrest hbegun
    refine ⟨hcons, fun p hp ↦ ?_⟩
    have hpos := hp.missing_pos
    by_cases hb : p.low ≤ b ∧ b ≤ p.high
    · by_cases hm : p.missing = 1
      · have h := Decoded.char (Char.ofNat (p.value * 64 + (b.toNat - 0x80))) hrest
        rw [← pieces_utf8EncodeChar_append, hp.encodes_last hb hm, ← List.append_cons] at h
        exact h
      · have h := hbegun (p.next b) (hp.next hb (by omega))
        have hraw : (p.next b).raw ++ rest = p.raw ++ b :: rest := (List.append_cons _ b rest).symm
        rwa [hraw] at h
    · obtain ⟨hstray, hpieces⟩ := hp.stray (b :: rest) fun b' hb' ↦ by
        obtain rfl := Option.some.inj hb'
        exact hb
      rw [hpieces]
      exact .invalid hstray hcons

theorem decoded_pieces (bytes : Bytes) : Decoded bytes (pieces bytes) := (decoded_append bytes).1

theorem Stray.length_le {bad' rest' : Bytes} (h : Stray bad rest) (h' : Stray bad' rest')
    (heq : bad ++ rest = bad' ++ rest') : bad'.length ≤ bad.length := by
  rcases h'.begins with hone | hbegins
  · have hpos := List.length_pos_iff.mpr h.ne_nil
    omega
  · exact h.longest bad' ⟨rest', heq.symm⟩ hbegins

theorem Decoded.eq_nil {ps : List Piece} (h : Decoded bytes ps) (hbytes : bytes = []) :
    ps = [] := by
  cases h with
  | nil => rfl
  | char c => exact absurd (List.append_eq_nil_iff.mp hbytes).1 String.utf8EncodeChar_ne_nil
  | invalid hbad => exact absurd (List.append_eq_nil_iff.mp hbytes).1 hbad.ne_nil

theorem Decoded.unique {ps ps' : List Piece} (h : Decoded bytes ps) (h' : Decoded bytes ps') :
    ps = ps' := by
  induction h generalizing ps' with
  | nil => exact (h'.eq_nil rfl).symm
  | @char c rest ps h ih =>
    generalize hbytes : String.utf8EncodeChar c ++ rest = bytes at h'
    cases h' with
    | nil => exact absurd (List.append_eq_nil_iff.mp hbytes).1 String.utf8EncodeChar_ne_nil
    | @char c' rest' ps' h' =>
      have hpieces := congrArg pieces hbytes
      rw [pieces_utf8EncodeChar_append, pieces_utf8EncodeChar_append] at hpieces
      obtain ⟨hc, -⟩ := List.cons.inj hpieces
      obtain rfl := Piece.char.inj hc
      rw [ih (List.append_cancel_left hbytes ▸ h')]
    | invalid hbad => exact absurd ⟨rest, hbytes⟩ (hbad.illFormed c)
  | @invalid bad rest ps hbad h ih =>
    generalize hbytes : bad ++ rest = bytes at h'
    cases h' with
    | nil => exact absurd (List.append_eq_nil_iff.mp hbytes).1 hbad.ne_nil
    | @char c rest' => exact absurd ⟨rest', hbytes.symm⟩ (hbad.illFormed c)
    | @invalid bad' rest' ps' hbad' h' =>
      have hlength := (hbad'.length_le hbad hbytes.symm).antisymm (hbad.length_le hbad' hbytes)
      obtain ⟨rfl, rfl⟩ := List.append_inj hbytes hlength
      rw [ih h']

theorem Decoded.flatMap_bytes {ps : List Piece} (h : Decoded bytes ps) :
    ps.flatMap Piece.bytes = bytes := by
  induction h with
  | nil => rfl
  | char c _ ih => rw [List.flatMap_cons, ih, Piece.bytes]
  | invalid _ _ ih => rw [List.flatMap_cons, ih, Piece.bytes]

theorem eq_map_char {ps : List Piece} {text : List Char} (hshown : ps.map Piece.shown = text)
    (hfree : replacement ∉ text) : ps = text.map .char := by
  induction ps generalizing text with
  | nil =>
    subst hshown
    rfl
  | cons piece ps ih =>
    subst hshown
    rw [List.map_cons, List.mem_cons, not_or] at hfree
    rw [List.map_cons, List.map_cons, ← ih rfl hfree.2]
    cases piece with
    | char c => rfl
    | invalid bad => exact absurd rfl hfree.1

theorem flatMap_bytes_map_char (text : List Char) :
    (text.map Piece.char).flatMap Piece.bytes = encode text := by
  rw [List.flatMap_map]
  rfl

theorem infix_of_infix_lossy {text : List Char} (hfree : replacement ∉ text)
    (h : text <:+: lossy bytes) : encode text <:+: bytes := by
  obtain ⟨before, after, hshown⟩ := h
  obtain ⟨front, back, hpieces, hfront, -⟩ := List.map_eq_append_iff.mp hshown.symm
  obtain ⟨front, found, rfl, -, hfound⟩ := List.map_eq_append_iff.mp hfront
  obtain rfl := eq_map_char hfound hfree
  have hbytes := (decoded_pieces bytes).flatMap_bytes
  rw [hpieces, List.flatMap_append, List.flatMap_append, flatMap_bytes_map_char] at hbytes
  exact ⟨_, _, hbytes⟩

end

end IngestCheck.Utf8
