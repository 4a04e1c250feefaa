import IngestCheck.Text.Utf8
import Mathlib.Data.List.Basic
import Mathlib.Data.List.Infix

namespace IngestCheck.Utf8

/-- What is left of a number without its last bits, taken off in groups of six. -/
def above (n : ℕ) : ℕ → ℕ
  | 0 => n
  | place + 1 => above n place / 64

def sextet (n place : ℕ) : UInt8 := UInt8.ofNat (above n place % 64 + 0x80)

def continuation (n : ℕ) : ℕ → Bytes
  | 0 => []
  | missing + 1 => sextet n missing :: continuation n missing

theorem toNat_sextet (n place : ℕ) : (sextet n place).toNat = above n place % 64 + 0x80 := by
  rw [sextet, UInt8.toNat_ofNat']
  omega

theorem sextet_bounds (n place : ℕ) : 0x80 ≤ sextet n place ∧ sextet n place ≤ 0xBF := by
  rw [UInt8.le_iff_toNat_le, UInt8.le_iff_toNat_le, toNat_sextet]
  change 0x80 ≤ _ ∧ _ ≤ 0xBF
  omega

theorem exists_above (place value : ℕ) : ∃ n, above n place = value := by
  induction place generalizing value with
  | zero => exact ⟨value, rfl⟩
  | succ place ih =>
    obtain ⟨n, hn⟩ := ih (value * 64)
    refine ⟨n, ?_⟩
    rw [above, hn, Nat.mul_div_cancel _ (by decide)]

section

variable {c : Char}

theorem toNat_scalar (c : Char) : c.toNat < 0xD800 ∨ 0xDFFF < c.toNat ∧ c.toNat < 0x110000 :=
  c.valid

theorem toNat_ofNat {n : ℕ} (h : n < 0xD800 ∨ 0xDFFF < n ∧ n < 0x110000) :
    (Char.ofNat n).toNat = n := by
  rw [Char.ofNat, dif_pos h]
  rfl

theorem utf8EncodeChar_two (h : 0x80 ≤ c.toNat) (h' : c.toNat < 0x800) :
    String.utf8EncodeChar c = UInt8.ofNat (above c.toNat 1 + 0xC0) :: continuation c.toNat 1 := by
  have hc : c.val.toNat = c.toNat := rfl
  have hlead : c.toNat / 64 % 32 = c.toNat / 64 := by omega
  simp only [String.utf8EncodeChar, hc]
  rw [if_neg (by omega), if_pos (by omega), hlead]
  simp [continuation, sextet, above]

theorem utf8EncodeChar_three (h : 0x800 ≤ c.toNat) (h' : c.toNat < 0x10000) :
    String.utf8EncodeChar c = UInt8.ofNat (above c.toNat 2 + 0xE0) :: continuation c.toNat 2 := by
  have hc : c.val.toNat = c.toNat := rfl
  have hlead : c.toNat / 4096 % 16 = c.toNat / 4096 := by omega
  simp only [String.utf8EncodeChar, hc]
  rw [if_neg (by omega), if_neg (by omega), if_pos (by omega), hlead]
  simp [continuation, sextet, above, Nat.div_div_eq_div_mul]

theorem utf8EncodeChar_four (h : 0x10000 ≤ c.toNat) :
    String.utf8EncodeChar c = UInt8.ofNat (above c.toNat 3 + 0xF0) :: continuation c.toNat 3 := by
  have hc : c.val.toNat = c.toNat := rfl
  have hscalar := toNat_scalar c
  have hlead : c.toNat / 262144 % 8 = c.toNat / 262144 := by omega
  simp only [String.utf8EncodeChar, hc]
  rw [if_neg (by omega), if_neg (by omega), if_neg (by omega), hlead]
  simp [continuation, sextet, above, Nat.div_div_eq_div_mul]

end

def run : State → Bytes → List Piece × State
  | s, [] => ([], s)
  | s, b :: rest => ((step s b).1 ++ (run (step s b).2 rest).1, (run (step s b).2 rest).2)

theorem run_append (s : State) (x y : Bytes) : run s (x ++ y) =
    ((run s x).1 ++ (run (run s x).2 y).1, (run (run s x).2 y).2) := by
  induction x generalizing s with
  | nil => rfl
  | cons b x ih => rw [List.cons_append, run, run, ih, List.append_assoc]

theorem run_singleton (s : State) (b : UInt8) : run s [b] = step s b := by
  rw [run, run, List.append_nil]

theorem piecesFrom_append (s : State) (x y : Bytes) :
    piecesFrom s (x ++ y) = (run s x).1 ++ piecesFrom (run s x).2 y := by
  induction x generalizing s with
  | nil => rfl
  | cons b x ih => rw [List.cons_append, piecesFrom, run, ih, List.append_assoc]

theorem piecesFrom_eq (s : State) (x : Bytes) :
    piecesFrom s x = (run s x).1 ++ flush (run s x).2 := by
  have h := piecesFrom_append s x []
  rwa [List.append_nil, piecesFrom] at h

namespace Partial

/-- The number of a character that may be the one begun. -/
structure Awaits (p : Partial) (n : ℕ) : Prop where
  value_eq : above n p.missing = p.value
  bounds : p.low ≤ sextet n (p.missing - 1) ∧ sextet n (p.missing - 1) ≤ p.high

def next (p : Partial) (b : UInt8) : Partial :=
  ⟨p.raw ++ [b], p.value * 64 + (b.toNat - 0x80), p.missing - 1, 0x80, 0xBF⟩

/-- A character begun: the bytes read so far are those that some characters begin with. -/
structure Sound (p : Partial) : Prop where
  missing_pos : 0 < p.missing
  bounds : 0x80 ≤ p.low ∧ p.low ≤ p.high ∧ p.high ≤ 0xBF
  encodes : ∀ n, p.Awaits n →
    String.utf8EncodeChar (Char.ofNat n) = p.raw ++ continuation n p.missing
  reached : run none p.raw = ([], some p)

variable {p : Partial} {b : UInt8} {n : ℕ}

theorem step_last (hb : p.low ≤ b ∧ b ≤ p.high) (hm : p.missing = 1) :
    step (some p) b = ([.char (Char.ofNat (p.value * 64 + (b.toNat - 0x80)))], none) := by
  simp [step, hb, hm]

theorem step_next (hb : p.low ≤ b ∧ b ≤ p.high) (hm : 1 < p.missing) :
    step (some p) b = ([], some (p.next b)) := by
  simp [step, hb, Nat.not_le.mpr hm, next]

theorem step_refused (hb : ¬ (p.low ≤ b ∧ b ≤ p.high)) :
    step (some p) b = (.invalid p.raw :: (lead b).1, (lead b).2) := if_neg hb

theorem awaits_iff {m : ℕ} (hm : p.missing = m + 1) : p.Awaits n ↔
    above n m / 64 = p.value ∧ p.low ≤ sextet n m ∧ sextet n m ≤ p.high := by
  have habove : above n (m + 1) = above n m / 64 := rfl
  rw [← habove, ← hm]
  constructor
  · rintro ⟨hvalue, hbounds⟩
    rw [hm] at hbounds
    exact ⟨hvalue, hbounds⟩
  · rintro ⟨hvalue, hbounds⟩
    refine ⟨hvalue, ?_⟩
    rw [hm]
    exact hbounds

theorem next_awaits_iff {m : ℕ} (hm : p.missing = m + 2) :
    (p.next b).Awaits n ↔ above n (m + 1) = p.value * 64 + (b.toNat - 0x80) := by
  rw [above]
  exact (awaits_iff (p := p.next b) (congrArg (· - 1) hm)).trans
    (and_iff_left (sextet_bounds n m))

theorem Awaits.run_continuation (h : p.Awaits n) (hm : 0 < p.missing) :
    run (some p) (continuation n p.missing) = ([.char (Char.ofNat n)], none) := by
  obtain ⟨m, hm⟩ : ∃ m, p.missing = m + 1 := ⟨p.missing - 1, by omega⟩
  rw [hm]
  induction m generalizing p with
  | zero =>
    obtain ⟨hvalue, hbounds⟩ := (awaits_iff hm).mp h
    rw [continuation, continuation, run_singleton, step_last hbounds hm, ← hvalue, toNat_sextet]
    have hn : n / 64 * 64 + (n % 64 + 0x80 - 0x80) = n := by omega
    rw [above, hn]
  | succ m ih =>
    obtain ⟨hvalue, hbounds⟩ := (awaits_iff hm).mp h
    have hmissing : (p.next (sextet n (m + 1))).missing = m + 1 := congrArg (· - 1) hm
    have hnext : (p.next (sextet n (m + 1))).Awaits n := by
      rw [next_awaits_iff hm, ← hvalue, toNat_sextet]
      omega
    rw [continuation, run, step_next hbounds (by omega), ih hnext (by omega) hmissing]
    rfl

namespace Sound

theorem range (h : p.Sound) (hb : p.low ≤ b ∧ b ≤ p.high) : 0x80 ≤ b.toNat ∧ b.toNat ≤ 0xBF :=
  ⟨h.bounds.1.trans hb.1, hb.2.trans h.bounds.2.2⟩

theorem awaits_of_above (h : p.Sound) (hb : p.low ≤ b ∧ b ≤ p.high) {m : ℕ}
    (hm : p.missing = m + 1) (hn : above n m = p.value * 64 + (b.toNat - 0x80)) :
    p.Awaits n ∧ sextet n m = b := by
  have hrange := h.range hb
  have hsextet : sextet n m = b := by
    rw [← UInt8.toNat_inj, toNat_sextet, hn]
    omega
  refine ⟨?_, hsextet⟩
  rw [awaits_iff hm, hsextet, hn]
  refine ⟨?_, hb⟩
  omega

theorem encodes_last (h : p.Sound) (hb : p.low ≤ b ∧ b ≤ p.high) (hm : p.missing = 1) :
    String.utf8EncodeChar (Char.ofNat (p.value * 64 + (b.toNat - 0x80))) = p.raw ++ [b] := by
  obtain ⟨hawaits, hsextet⟩ := h.awaits_of_above hb hm rfl
  rw [h.encodes _ hawaits, hm, continuation, continuation, hsextet]

theorem next (h : p.Sound) (hb : p.low ≤ b ∧ b ≤ p.high) (hm : 1 < p.missing) :
    (p.next b).Sound := by
  obtain ⟨m, hm'⟩ : ∃ m, p.missing = m + 2 := ⟨p.missing - 2, by omega⟩
  have hmissing : (p.next b).missing = m + 1 := congrArg (· - 1) hm'
  refine ⟨?_, ?_, ?_, ?_⟩
  · omega
  · change (0x80 : UInt8) ≤ 0x80 ∧ (0x80 : UInt8) ≤ 0xBF ∧ (0xBF : UInt8) ≤ 0xBF
    decide
  · intro n hn
    rw [next_awaits_iff hm'] at hn
    obtain ⟨hawaits, hsextet⟩ := h.awaits_of_above hb hm' hn
    rw [h.encodes n hawaits, hm', continuation, hsextet, hmissing]
    exact List.append_cons p.raw b _
  · change run none (p.raw ++ [b]) = _
    rw [run_append, h.reached, run_singleton, step_next hb hm]
    rfl

theorem exists_prefix (h : p.Sound) : ∃ c, p.raw <+: String.utf8EncodeChar c := by
  obtain ⟨m, hm⟩ : ∃ m, p.missing = m + 1 := ⟨p.missing - 1, by have := h.missing_pos; omega⟩
  have hlow : p.low ≤ p.low ∧ p.low ≤ p.high := ⟨UInt8.le_refl _, h.bounds.2.1⟩
  -- the number of one is had by going on with the least byte that may come
  obtain ⟨n, hn⟩ := exists_above m (p.value * 64 + (p.low.toNat - 0x80))
  obtain ⟨hawaits, -⟩ := h.awaits_of_above hlow hm hn
  exact ⟨_, _, (h.encodes _ hawaits).symm⟩

end Sound

end Partial

section

variable {b : UInt8}

def Partial.two (b : UInt8) : Partial := ⟨[b], b.toNat - 0xC0, 1, 0x80, 0xBF⟩

def Partial.three (b : UInt8) : Partial :=
  ⟨[b], b.toNat - 0xE0, 2, if b = 0xE0 then 0xA0 else 0x80, if b = 0xED then 0x9F else 0xBF⟩

def Partial.four (b : UInt8) : Partial :=
  ⟨[b], b.toNat - 0xF0, 3, if b = 0xF0 then 0x90 else 0x80, if b = 0xF4 then 0x8F else 0xBF⟩

theorem toNat_ite (a x y : UInt8) : (if b = a then x else y).toNat =
    if b.toNat = a.toNat then x.toNat else y.toNat := by
  rw [apply_ite UInt8.toNat]
  simp only [UInt8.toNat_inj]

theorem lead_one (h : b.toNat < 0x80) : lead b = ([.char (Char.ofNat b.toNat)], none) := if_pos h

theorem lead_two (h : 0xC2 ≤ b.toNat ∧ b.toNat < 0xE0) : lead b = ([], some (.two b)) := by
  simp only [lead, UInt8.lt_iff_toNat_lt, UInt8.reduceToNat]
  rw [if_neg (by omega), if_neg (by omega), if_pos (by omega)]
  rfl

theorem lead_three (h : 0xE0 ≤ b.toNat ∧ b.toNat < 0xF0) : lead b = ([], some (.three b)) := by
  simp only [lead, UInt8.lt_iff_toNat_lt, UInt8.reduceToNat]
  rw [if_neg (by omega), if_neg (by omega), if_neg (by omega), if_pos (by omega)]
  rfl

theorem lead_four (h : 0xF0 ≤ b.toNat ∧ b.toNat < 0xF5) : lead b = ([], some (.four b)) := by
  simp only [lead, UInt8.lt_iff_toNat_lt, UInt8.reduceToNat]
  rw [if_neg (by omega), if_neg (by omega), if_neg (by omega), if_neg (by omega),
    if_pos (by omega)]
  rfl

theorem lead_stray (h : 0x80 ≤ b.toNat ∧ b.toNat < 0xC2 ∨ 0xF5 ≤ b.toNat) :
    lead b = ([.invalid [b]], none) := by
  simp only [lead, UInt8.lt_iff_toNat_lt, UInt8.reduceToNat]
  rcases h with h | h
  · rw [if_neg (by omega), if_pos (by omega)]
  · rw [if_neg (by omega), if_neg (by omega), if_neg (by omega), if_neg (by omega),
      if_neg (by omega)]

/-- A first byte carries the bits of a number above those that the bytes after it carry. -/
theorem sound_of_lead {p : Partial} (hlead : lead b = ([], some p)) (hraw : p.raw = [b])
    (hpos : 0 < p.missing) (hbounds : 0x80 ≤ p.low ∧ p.low ≤ p.high ∧ p.high ≤ 0xBF)
    {base : ℕ} (hvalue : p.value + base = b.toNat)
    (hscalar : ∀ n, p.Awaits n → n < 0xD800 ∨ 0xDFFF < n ∧ n < 0x110000)
    (hchar : ∀ c : Char, p.Awaits c.toNat → String.utf8EncodeChar c =
      UInt8.ofNat (above c.toNat p.missing + base) :: continuation c.toNat p.missing) :
    p.Sound where
  missing_pos := hpos
  bounds := hbounds
  encodes n hn := by
    have hc := toNat_ofNat (hscalar n hn)
    have h := hchar (Char.ofNat n) (hc.symm ▸ hn)
    rw [hc, hn.value_eq, hvalue, UInt8.ofNat_toNat] at h
    rw [h, hraw, List.singleton_append]
  reached := by
    rw [hraw, run_singleton]
    exact hlead

theorem sound_two (h : 0xC2 ≤ b.toNat ∧ b.toNat < 0xE0) : (Partial.two b).Sound := by
  have hrange {n : ℕ} (hn : (Partial.two b).Awaits n) : 0x80 ≤ n ∧ n < 0x800 := by
    have hvalue := hn.value_eq
    simp only [Partial.two, above] at hvalue
    omega
  refine sound_of_lead (lead_two h) rfl Nat.one_pos ?_ (Nat.sub_add_cancel (by omega)) ?_ ?_
  · simp only [Partial.two]
    decide
  · intro n hn
    have hn := hrange hn
    omega
  · intro c hc
    exact utf8EncodeChar_two (hrange hc).1 (hrange hc).2

theorem sound_three (h : 0xE0 ≤ b.toNat ∧ b.toNat < 0xF0) : (Partial.three b).Sound := by
  -- the bounds leave out long spellings of lower numbers, and the surrogates
  have hrange {n : ℕ} (hn : (Partial.three b).Awaits n) :
      0x800 ≤ n ∧ n < 0x10000 ∧ (n < 0xD800 ∨ 0xDFFF < n) := by
    obtain ⟨hvalue, hbounds⟩ := hn
    simp only [Partial.three, UInt8.le_iff_toNat_le, toNat_ite, UInt8.reduceToNat, toNat_sextet,
      above] at hvalue hbounds
    split_ifs at hbounds <;> omega
  refine sound_of_lead (lead_three h) rfl Nat.two_pos ?_ (Nat.sub_add_cancel h.1) ?_ ?_
  · simp only [Partial.three, UInt8.le_iff_toNat_le, toNat_ite, UInt8.reduceToNat]
    split_ifs <;> omega
  · intro n hn
    have hn := hrange hn
    omega
  · intro c hc
    exact utf8EncodeChar_three (hrange hc).1 (hrange hc).2.1

theorem sound_four (h : 0xF0 ≤ b.toNat ∧ b.toNat < 0xF5) : (Partial.four b).Sound := by
  -- the bounds leave out long spellings of lower numbers, and what is beyond the last
  have hrange {n : ℕ} (hn : (Partial.four b).Awaits n) : 0x10000 ≤ n ∧ n < 0x110000 := by
    obtain ⟨hvalue, hbounds⟩ := hn
    simp only [Partial.four, UInt8.le_iff_toNat_le, toNat_ite, UInt8.reduceToNat, toNat_sextet,
      above] at hvalue hbounds
    split_ifs at hbounds <;> omega
  refine sound_of_lead (lead_four h) rfl (Nat.succ_pos 2) ?_ (Nat.sub_add_cancel h.1) ?_ ?_
  · simp only [Partial.four, UInt8.le_iff_toNat_le, toNat_ite, UInt8.reduceToNat]
    split_ifs <;> omega
  · intro n hn
    have hn := hrange hn
    omega
  · intro c hc
    exact utf8EncodeChar_four (hrange hc).1

theorem lead_cases (b : UInt8) :
    lead b = ([.char (Char.ofNat b.toNat)], none) ∧
        String.utf8EncodeChar (Char.ofNat b.toNat) = [b] ∨
      lead b = ([.invalid [b]], none) ∨
      ∃ p : Partial, lead b = ([], some p) ∧ p.raw = [b] ∧ p.Sound := by
  by_cases hone : b.toNat < 0x80
  · refine .inl ⟨lead_one hone, ?_⟩
    have hc : (Char.ofNat b.toNat).val.toNat = b.toNat := toNat_ofNat (by omega)
    simp only [String.utf8EncodeChar, hc]
    rw [if_pos (by omega), UInt8.ofNat_toNat]
  right
  by_cases htwo : 0xC2 ≤ b.toNat ∧ b.toNat < 0xE0
  · exact .inr ⟨_, lead_two htwo, rfl, sound_two htwo⟩
  by_cases hthree : 0xE0 ≤ b.toNat ∧ b.toNat < 0xF0
  · exact .inr ⟨_, lead_three hthree, rfl, sound_three hthree⟩
  by_cases hfour : 0xF0 ≤ b.toNat ∧ b.toNat < 0xF5
  · exact .inr ⟨_, lead_four hfour, rfl, sound_four hfour⟩
  · exact .inl (lead_stray (by omega))

end

theorem lead_utf8EncodeChar (c : Char) :
    (∃ b : UInt8, b.toNat < 0x80 ∧ String.utf8EncodeChar c = [b] ∧ lead b = ([.char c], none)) ∨
      ∃ (b : UInt8) (p : Partial), 0xC0 ≤ b.toNat ∧ lead b = ([], some p) ∧ 0 < p.missing ∧
        p.Awaits c.toNat ∧ String.utf8EncodeChar c = b :: continuation c.toNat p.missing := by
  have hscalar := toNat_scalar c
  have hc : c.val.toNat = c.toNat := rfl
  have hbyte {n : ℕ} (h : n < 256) : (UInt8.ofNat n).toNat = n := by
    rw [UInt8.toNat_ofNat', Nat.mod_eq_of_lt h]
  by_cases hone : c.toNat < 0x80
  · have hb := hbyte (n := c.toNat) (by omega)
    refine .inl ⟨_, hb.trans_lt hone, if_pos (by omega), ?_⟩
    rw [lead_one (by omega), hb, Char.ofNat_toNat]
  right
  -- in each range the first byte carries what is left of the number above the other bytes
  by_cases htwo : c.toNat < 0x800
  · have hb : (UInt8.ofNat (c.toNat / 64 + 0xC0)).toNat = c.toNat / 64 + 0xC0 :=
      hbyte (by omega)
    refine ⟨UInt8.ofNat (c.toNat / 64 + 0xC0), .two _, by omega, lead_two (by omega),
      Nat.one_pos, ?_, utf8EncodeChar_two (by omega) htwo⟩
    rw [Partial.awaits_iff rfl]
    simp only [Partial.two, hb, UInt8.le_iff_toNat_le, UInt8.reduceToNat, toNat_sextet, above]
    omega
  by_cases hthree : c.toNat < 0x10000
  · have hb : (UInt8.ofNat (c.toNat / 64 / 64 + 0xE0)).toNat = c.toNat / 64 / 64 + 0xE0 :=
      hbyte (by omega)
    refine ⟨UInt8.ofNat (c.toNat / 64 / 64 + 0xE0), .three _, by omega, lead_three (by omega),
      Nat.two_pos, ?_, utf8EncodeChar_three (by omega) hthree⟩
    rw [Partial.awaits_iff rfl]
    simp only [Partial.three, hb, UInt8.le_iff_toNat_le, UInt8.reduceToNat, toNat_sextet, toNat_ite,
      above]
    split_ifs <;> omega
  · have hb : (UInt8.ofNat (c.toNat / 64 / 64 / 64 + 0xF0)).toNat = c.toNat / 64 / 64 / 64 + 0xF0 :=
      hbyte (by omega)
    refine ⟨UInt8.ofNat (c.toNat / 64 / 64 / 64 + 0xF0), .four _, by omega, lead_four (by omega),
      Nat.succ_pos 2, ?_, utf8EncodeChar_four (by omega)⟩
    rw [Partial.awaits_iff rfl]
    simp only [Partial.four, hb, UInt8.le_iff_toNat_le, UInt8.reduceToNat, toNat_sextet, toNat_ite,
      above]
    split_ifs <;> omega

theorem run_utf8EncodeChar (c : Char) :
    run none (String.utf8EncodeChar c) = ([.char c], none) := by
  rcases lead_utf8EncodeChar c with ⟨b, -, hbytes, hlead⟩ | ⟨b, p, -, hlead, hpos, hp, hbytes⟩
  · rw [hbytes, run_singleton]
    exact hlead
  · have hstep : step none b = ([], some p) := hlead
    rw [hbytes, run, hstep, hp.run_continuation hpos, Char.ofNat_toNat]
    rfl

theorem pieces_utf8EncodeChar_append (c : Char) (rest : Bytes) :
    pieces (String.utf8EncodeChar c ++ rest) = .char c :: pieces rest := by
  rw [pieces, piecesFrom_append, run_utf8EncodeChar]
  rfl

theorem pieces_encode_append (text : List Char) (rest : Bytes) :
    pieces (encode text ++ rest) = text.map .char ++ pieces rest := by
  induction text with
  | nil => rfl
  | cons c text ih =>
    rw [encode, List.flatMap_cons, List.append_assoc, pieces_utf8EncodeChar_append, ← encode, ih]
    rfl

/-- Wherever the decoder stands inside a character, some character begins like that. -/
theorem sound_run (bytes : Bytes) {s : State} (hs : ∀ p, s = some p → p.Sound) {p : Partial}
    (h : (run s bytes).2 = some p) : p.Sound := by
  induction bytes generalizing s with
  | nil => exact hs p h
  | cons b rest ih =>
    refine ih (fun q hq ↦ ?_) h
    have hlead (hq : (lead b).2 = some q) : q.Sound := by
      rcases lead_cases b with ⟨hb, -⟩ | hb | ⟨q', hb, -, hq'⟩
      · rw [hb] at hq
        cases hq
      · rw [hb] at hq
        cases hq
      · rw [hb, Option.some.injEq] at hq
        exact hq ▸ hq'
    cases s with
    | none => exact hlead hq
    | some p' =>
      have hp' := hs p' rfl
      have hpos := hp'.missing_pos
      by_cases hb : p'.low ≤ b ∧ b ≤ p'.high
      · by_cases hm : p'.missing = 1
        · rw [Partial.step_last hb hm] at hq
          cases hq
        · rw [Partial.step_next hb (by omega), Option.some.injEq] at hq
          exact hq ▸ hp'.next hb (by omega)
      · rw [Partial.step_refused hb] at hq
        exact hlead hq

theorem pieces_append_cons (before rest : Bytes) {b : UInt8}
    (hb : b.toNat < 0x80 ∨ 0xC0 ≤ b.toNat) :
    pieces (before ++ b :: rest) = pieces before ++ pieces (b :: rest) := by
  rw [pieces, piecesFrom_append, pieces, piecesFrom_eq none before, List.append_assoc]
  congr 1
  cases hs : (run none before).2 with
  | none => rfl
  | some p =>
    -- the byte ends what was begun before it, and the end of the input would have done so too
    have hp : p.Sound := sound_run before (s := none) (fun _ h ↦ nomatch h) hs
    have hrefused : ¬ (p.low ≤ b ∧ b ≤ p.high) := by
      intro hbounds
      have hrange := hp.range hbounds
      omega
    rw [piecesFrom, Partial.step_refused hrefused]
    rfl

/-- A text is read wherever its bytes stand, and what is around it is read as if it stood alone. -/
theorem lossy_append {text : List Char} (hne : text ≠ []) (before after : Bytes) :
    lossy (before ++ encode text ++ after) = lossy before ++ text ++ lossy after := by
  obtain ⟨c, text, rfl⟩ := List.exists_cons_of_ne_nil hne
  obtain ⟨b, rest, hbytes, hb⟩ : ∃ b rest, encode (c :: text) ++ after = b :: rest ∧
      (b.toNat < 0x80 ∨ 0xC0 ≤ b.toNat) := by
    rw [encode, List.flatMap_cons]
    rcases lead_utf8EncodeChar c with ⟨b, hb, hbytes, -⟩ | ⟨b, p, hb, -, -, -, hbytes⟩
    · exact ⟨b, _, by rw [hbytes]; rfl, .inl hb⟩
    · exact ⟨b, _, by rw [hbytes]; rfl, .inr hb⟩
  have hshown : (Piece.shown ∘ Piece.char) = id := rfl
  rw [List.append_assoc, hbytes, lossy, pieces_append_cons before rest hb, ← hbytes,
    pieces_encode_append, List.map_append, List.map_append, List.map_map, hshown, List.map_id,
    ← lossy, ← lossy, List.append_assoc]

end IngestCheck.Utf8
