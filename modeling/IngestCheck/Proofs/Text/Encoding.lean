import IngestCheck.Text.Utf8
import Mathlib.Data.List.Basic

namespace IngestCheck

theorem notMem_of_mem_splitOn {α : Type} [DecidableEq α] {a : α} {l piece : List α}
    (h : piece ∈ l.splitOn a) : a ∉ piece := by
  induction l generalizing piece with
  | nil =>
    rw [List.splitOn_nil, List.mem_singleton] at h
    rw [h]
    exact List.not_mem_nil
  | cons b l ih =>
    obtain ⟨first, more, hl⟩ := List.exists_cons_of_ne_nil (List.splitOn_ne_nil a l)
    rw [List.splitOn_cons_eq_if_modifyHead, hl] at h
    rw [hl] at ih
    by_cases hb : b = a
    · rw [if_pos (by simpa using hb)] at h
      rcases List.mem_cons.mp h with rfl | h
      · exact List.not_mem_nil
      · exact ih h
    · rw [if_neg (by simpa using hb), List.modifyHead_cons] at h
      rcases List.mem_cons.mp h with rfl | h
      · exact List.not_mem_cons_of_ne_of_not_mem (Ne.symm hb) (ih List.mem_cons_self)
      · exact ih (List.mem_cons_of_mem first h)

namespace Utf8

theorem utf8EncodeChar_of_ascii {a : Char} (ha : a.toNat < 128) :
    String.utf8EncodeChar a = [UInt8.ofNat a.toNat] := if_pos (Nat.le_of_lt_succ ha)

theorem mem_utf8EncodeChar_iff {a : Char} (ha : a.toNat < 128) (c : Char) :
    UInt8.ofNat a.toNat ∈ String.utf8EncodeChar c ↔ a = c := by
  constructor
  · intro h
    have hbyte (n : ℕ) : UInt8.ofNat a.toNat = UInt8.ofNat n ↔ a.toNat % 256 = n % 256 := by
      rw [← UInt8.toNat_inj, UInt8.toNat_ofNat', UInt8.toNat_ofNat']
    have hval : c.val.toNat = c.toNat := rfl
    unfold String.utf8EncodeChar at h
    dsimp only at h
    split_ifs at h <;> simp only [List.mem_cons, List.not_mem_nil, or_false, hbyte] at h
    · exact Char.toNat_inj.mp (by omega)
    all_goals omega
  · rintro rfl
    rw [utf8EncodeChar_of_ascii ha]
    exact List.mem_singleton_self _

theorem encode_intercalate (separator : List Char) (texts : List (List Char)) :
    encode (List.intercalate separator texts) =
      List.intercalate (encode separator) (texts.map encode) := by
  induction texts with
  | nil => rfl
  | cons text texts ih =>
    cases texts with
    | nil => simp
    | cons text' texts =>
      rw [List.map_cons, List.map_cons, List.intercalate_cons_cons, List.intercalate_cons_cons,
        ← List.map_cons, ← ih]
      simp [encode]

end Utf8

namespace Bytes

theorem ofString_injective : Function.Injective ofString := by
  intro text text' h
  have hencode : text.toList.utf8Encode = text'.toList.utf8Encode := congrArg List.toByteArray h
  rwa [String.utf8Encode_toList, String.utf8Encode_toList, String.toByteArray_inj] at hencode

theorem ofString_eq_nil_iff {text : String} : ofString text = [] ↔ text = "" :=
  ofString_injective.eq_iff' rfl

section

variable {a : Char} (ha : a.toNat < 128)

include ha

theorem mem_ofString_iff {text : String} :
    UInt8.ofNat a.toNat ∈ ofString text ↔ a ∈ text.toList := by
  simp only [ofString, Utf8.encode, List.mem_flatMap, Utf8.mem_utf8EncodeChar_iff ha,
    exists_eq_right']

theorem ofString_singleton : ofString (String.singleton a) = [UInt8.ofNat a.toNat] := by
  simp [ofString, Utf8.encode, Utf8.utf8EncodeChar_of_ascii ha]

/-- Texts joined by a character are found again between its bytes, unless there are none or one of
them contains it. -/
theorem splitOn_intercalate_iff {texts : List String} :
    (ofString ((String.singleton a).intercalate texts)).splitOn (UInt8.ofNat a.toNat) =
        texts.map ofString ↔
      texts ≠ [] ∧ ∀ text ∈ texts, a ∉ text.toList := by
  have hjoined : ofString ((String.singleton a).intercalate texts) =
      List.intercalate [UInt8.ofNat a.toNat] (texts.map ofString) := by
    rw [ofString, String.toList_intercalate, Utf8.encode_intercalate, List.map_map,
      ← ofString_singleton ha]
    rfl
  rw [hjoined]
  constructor
  · intro h
    refine ⟨?_, fun text htext hmem ↦ ?_⟩
    · rintro rfl
      exact List.splitOn_ne_nil _ _ h
    · have hpiece : ofString text ∈ texts.map ofString := List.mem_map_of_mem htext
      rw [← h] at hpiece
      exact notMem_of_mem_splitOn hpiece ((mem_ofString_iff ha).mpr hmem)
  · rintro ⟨hne, hfree⟩
    refine List.splitOn_intercalate _ ?_ (by simpa using hne)
    intro bytes hbytes hmem
    obtain ⟨text, htext, rfl⟩ := List.mem_map.mp hbytes
    exact hfree text htext ((mem_ofString_iff ha).mp hmem)

end

end Bytes

end IngestCheck
