import IngestCheck.Proofs.Command.Assembly
import IngestCheck.Proofs.Display.Reading
import Mathlib.Data.List.Count

namespace IngestCheck

namespace Overlaid

variable {α : Type} {marks x y : List α}

theorem mem_or_mem (h : Overlaid marks y x) {a : α} (ha : a ∈ y) : a ∈ marks ∨ a ∈ x := by
  induction h with
  | nil => exact .inr ha
  | keep b _ ih =>
    rcases List.mem_cons.mp ha with rfl | ha
    · exact .inr List.mem_cons_self
    · exact (ih ha).imp_right (List.mem_cons_of_mem b)
  | cover hm cut _ ih =>
    rcases List.mem_cons.mp ha with rfl | ha
    · exact .inl hm
    · exact (ih ha).imp_right (List.mem_append_right cut)

theorem ne_nil (h : Overlaid marks y x) (hx : x ≠ []) : y ≠ [] := by
  cases h with
  | nil => exact hx
  | keep | cover => exact List.cons_ne_nil _ _

theorem countP_le (h : Overlaid marks y x) {p : α → Bool} (hp : ∀ m ∈ marks, p m = false) :
    y.countP p ≤ x.countP p := by
  induction h with
  | nil => exact Nat.le_refl _
  | keep a _ ih =>
    rw [List.countP_cons, List.countP_cons]
    omega
  | cover hm cut _ ih =>
    rw [List.countP_cons, hp _ hm, List.countP_append]
    simp only [Bool.false_eq_true, if_false]
    omega

end Overlaid

namespace Mask

variable {word mask text : List Char} {secrets : List (List Char)}

def Starred (text : List Char) : Prop := ∀ c ∈ text, c = '*'

theorem starred_stars : Starred stars := by
  intro c hc
  simpa [stars] using hc

theorem Starred.replace (h : Starred text) (word : List Char) :
    Starred (replace word stars text) := by
  intro c hc
  rcases (overlaid_replace (List.cons_ne_nil _ _) text).mem_or_mem hc with hc | hc
  · exact starred_stars c hc
  · exact h c hc

theorem Starred.all (h : Starred text) (secrets : List (List Char)) :
    Starred (all secrets text) := by
  induction secrets generalizing text with
  | nil => exact h
  | cons secret secrets ih => exact ih (h.replace secret)

theorem all_ne_nil (h : text ≠ []) (secrets : List (List Char)) : all secrets text ≠ [] := by
  induction secrets generalizing text with
  | nil => exact h
  | cons secret secrets ih =>
    exact ih ((overlaid_replace (List.cons_ne_nil _ _) text).ne_nil h)

theorem all_append (secrets secrets' : List (List Char)) (text : List Char) :
    all (secrets ++ secrets') text = all secrets' (all secrets text) := List.foldl_append

theorem starred_all_append_self (hne : text ≠ [])
    (h : ∀ secret ∈ secrets, secret <:+: text → secret = text) :
    Starred (all (secrets ++ [text]) text) := by
  induction secrets with
  | nil =>
    have hstars : all [text] text = stars := replace_self hne
    rw [List.nil_append, hstars]
    exact starred_stars
  | cons secret secrets ih =>
    obtain ⟨hsecret, hsecrets⟩ := List.forall_mem_cons.mp h
    rw [List.cons_append, all, List.foldl_cons, ← all]
    by_cases hoccurs : secret <:+: text
    · obtain rfl := hsecret hoccurs
      rw [replace_self hne]
      exact starred_stars.all _
    · rw [replace_eq_self hoccurs]
      exact ih hsecrets

def legible (text : List Char) : Nat := text.countP (· != '*')

theorem legible_append (text text' : List Char) :
    legible (text ++ text') = legible text + legible text' := List.countP_append

theorem legible_le_of_overlaid {shown : List Char} (h : Overlaid stars shown text) :
    legible shown ≤ legible text := by
  refine h.countP_le fun m hm ↦ ?_
  simp [starred_stars m hm]

theorem legible_pos (hne : word ≠ []) (hfree : '*' ∉ word) : 0 < legible word := by
  obtain ⟨c, word, rfl⟩ := List.exists_cons_of_ne_nil hne
  have hc : c ≠ '*' := fun h ↦ hfree (h ▸ List.mem_cons_self)
  exact List.countP_pos_iff.mpr ⟨c, List.mem_cons_self, bne_iff_ne.mpr hc⟩

theorem legible_all_le (secrets : List (List Char)) (text : List Char) :
    legible (all secrets text) ≤ legible text := by
  induction secrets generalizing text with
  | nil => exact Nat.le_refl _
  | cons secret secrets ih =>
    calc legible (all secrets (replace secret stars text))
        ≤ legible (replace secret stars text) := ih _
      _ ≤ legible text := legible_le_of_overlaid (overlaid_replace (List.cons_ne_nil _ _) text)

theorem exists_replace_eq (hne : word ≠ []) (h : word <:+: text) (mask : List Char) :
    ∃ before after, text = before ++ word ++ after ∧
      replace word mask text = before ++ mask ++ replaceFrom word mask 0 after := by
  rw [replace_eq_replaceFrom hne]
  induction text with
  | nil => exact absurd (List.infix_nil.mp h) hne
  | cons c text ih =>
    by_cases hprefix : word <+: c :: text
    · obtain ⟨after, hafter⟩ := hprefix
      refine ⟨[], after, hafter.symm, ?_⟩
      rw [← hafter, replaceFrom_append hne, List.nil_append]
    · have hoccurs : word <:+: text := (List.infix_cons_iff.mp h).resolve_left hprefix
      obtain ⟨before, after, rfl, heq⟩ := ih hoccurs
      refine ⟨c :: before, after, rfl, ?_⟩
      rw [replaceFrom_cons hprefix, heq]
      rfl

theorem legible_replace_lt (hne : word ≠ []) (hfree : '*' ∉ word) (h : word <:+: text) :
    legible (replace word stars text) < legible text := by
  obtain ⟨before, after, htext, hshown⟩ := exists_replace_eq hne h stars
  have hafter : legible (replaceFrom word stars 0 after) ≤ legible after :=
    legible_le_of_overlaid (overlaid_replaceFrom (List.cons_ne_nil _ _) 0 after)
  have hstars : legible stars = 0 := rfl
  have hword := legible_pos hne hfree
  rw [hshown, htext, legible_append, legible_append, legible_append, legible_append]
  omega

theorem legible_all_lt (hsecrets : ∀ secret ∈ secrets, secret ≠ []) (hfree : '*' ∉ text)
    (h : ∃ secret ∈ secrets, secret <:+: text) : legible (all secrets text) < legible text := by
  induction secrets with
  | nil => simp at h
  | cons secret secrets ih =>
    obtain ⟨hne, hsecrets⟩ := List.forall_mem_cons.mp hsecrets
    by_cases hoccurs : secret <:+: text
    · have hword : '*' ∉ secret := fun hmem ↦ hfree (hoccurs.subset hmem)
      exact (legible_all_le secrets _).trans_lt (legible_replace_lt hne hword hoccurs)
    · have hrest : ∃ secret ∈ secrets, secret <:+: text := by
        simpa [hoccurs] using h
      rw [all, List.foldl_cons, replace_eq_self hoccurs]
      exact ih hsecrets hrest

theorem all_append_self (hsecrets : ∀ secret ∈ secrets, secret ≠ []) (hfree : '*' ∉ text)
    (h : ∃ secret ∈ secrets, secret <:+: text) :
    all (secrets ++ [text]) text = all secrets text := by
  -- stars never become legible again, so the rest is too short to hold the whole
  have hgone : ¬ text <:+: all secrets text := fun hoccurs ↦
    Nat.not_le.mpr (legible_all_lt hsecrets hfree h) hoccurs.sublist.countP_le
  rw [all_append]
  exact replace_eq_self hgone

end Mask

namespace Command

variable {program value : Bytes} {before after : List Piece} {name : String}

theorem masked_build (hne : value ≠ []) :
    (build program (before ++ .secretFlag name value :: after)).masked =
      (build program before).masked ++ [Utf8.lossy value] ++ (build program after).masked := by
  simp [masked, Piece.secrets, hne]

def shownAt (c : Command) (i : Nat) : Option (List Char) :=
  (ShellWord.read [] c.displayLine.toList).bind (·[i]?)

theorem shownAt_eq (c : Command) (i : Nat) : c.shownAt i = c.words[i]?.map c.redact := by
  rw [shownAt, displayLine, String.toList_ofList, ShellWord.read_join (List.nil_subset _),
    Option.bind_some, List.getElem?_map]

def shownValue (program : Bytes) (before : List Piece) (name : String) (value : Bytes)
    (after : List Piece) : Option (List Char) :=
  (build program (before ++ .secretFlag name value :: after)).shownAt
    ((build program before).words.length + 1)

theorem shownValue_eq (hne : value ≠ []) : shownValue program before name value after =
    some (Mask.all (build program after).masked
      (Mask.all ((build program before).masked ++ [Utf8.lossy value]) (Utf8.lossy value))) := by
  have hword : (build program (before ++ .secretFlag name value :: after)).words[
      (build program before).words.length + 1]? = some value := by
    simp [Piece.words]
  rw [shownValue, shownAt_eq, hword, Option.map_some, redact, masked_build hne, Mask.all_append]

def Hidden (shown : Option (List Char)) : Prop :=
  ∃ text, shown = some text ∧ text ≠ [] ∧ Mask.Starred text

theorem forall_hidden_iff (hne : value ≠ []) :
    (∀ after, Hidden (shownValue program before name value after)) ↔
      Mask.Starred (Mask.all ((build program before).masked ++ [Utf8.lossy value])
        (Utf8.lossy value)) := by
  constructor
  · intro h
    -- with nothing after it, the value is shown as the secrets up to its own leave it
    obtain ⟨text, htext, -, hstarred⟩ := h []
    rw [shownValue_eq hne, Option.some.injEq] at htext
    subst htext
    exact hstarred
  · intro h after
    have hshown := Mask.all_ne_nil (Utf8.lossy_ne_nil hne)
      ((build program before).masked ++ [Utf8.lossy value])
    exact ⟨_, shownValue_eq hne, Mask.all_ne_nil hshown _, h.all _⟩

/-- The value of a secret flag is hidden, whatever comes after it, if no other secret declared
before it occurs in it. A value without asterisks is hidden in no other case than that the secrets
before it mask all of it between them. -/
theorem secretFlag_hidden (program : Bytes) (before : List Piece) (name : String) {value : Bytes}
    (hne : value ≠ []) :
    ((∀ secret ∈ (build program before).masked, secret <:+: Utf8.lossy value →
        secret = Utf8.lossy value) →
      ∀ after, Hidden (shownValue program before name value after)) ∧
    ('*' ∉ Utf8.lossy value →
      ((∀ after, Hidden (shownValue program before name value after)) ↔
        (∀ secret ∈ (build program before).masked, ¬ secret <:+: Utf8.lossy value) ∨
          Mask.Starred (Mask.all (build program before).masked (Utf8.lossy value)))) := by
  have hlossy := Utf8.lossy_ne_nil hne
  rw [forall_hidden_iff hne]
  refine ⟨Mask.starred_all_append_self hlossy, fun hstar ↦ ?_⟩
  by_cases hcut : ∃ secret ∈ (build program before).masked, secret <:+: Utf8.lossy value
  · have hsome : ¬ ∀ secret ∈ (build program before).masked,
        ¬ secret <:+: Utf8.lossy value := by simpa using hcut
    rw [Mask.all_append_self (fun _ ↦ ne_nil_of_mem_masked) hstar hcut, or_iff_right hsome]
  · have hwhole : ∀ secret ∈ (build program before).masked, ¬ secret <:+: Utf8.lossy value :=
      fun secret hmem hoccurs ↦ hcut ⟨secret, hmem, hoccurs⟩
    have hstarred := Mask.starred_all_append_self hlossy
      fun secret hmem hoccurs ↦ absurd hoccurs (hwhole secret hmem)
    exact iff_of_true hstarred (.inl hwhole)

/-- The secret before it overlaps a word but not the value, and stars come after it. -/
theorem secretFlag_hidden_overlapping :
    ("abc" : Bytes) ≠ [] ∧ Hidden (shownValue "tool"
      [.secretFlag "--first" "bcd", .argument "abcd"] "--key" "abc"
      [.secretFlag "--last" "*"]) := by
  have hne : ("abc" : Bytes) ≠ [] := by decide
  refine ⟨hne, (secretFlag_hidden "tool" [.secretFlag "--first" "bcd", .argument "abcd"] "--key"
    hne).1 ?_ [.secretFlag "--last" "*"]⟩
  decide

/-- A secret that is cut out of a later one leaves the rest of it to be read. -/
theorem secretFlag_not_hidden :
    ("abc" : Bytes) ≠ [] ∧
      shownValue "tool" [.secretFlag "--old-key" "b"] "--new-key" "abc" [] =
        some "a***c".toList ∧
      ¬ Hidden (shownValue "tool" [.secretFlag "--old-key" "b"] "--new-key" "abc" []) := by
  have hshown : shownValue "tool" [.secretFlag "--old-key" "b"] "--new-key" "abc" [] =
      some "a***c".toList := by decide
  refine ⟨by decide, hshown, ?_⟩
  rintro ⟨text, htext, -, hstarred⟩
  rw [hshown, Option.some.injEq] at htext
  have ha : 'a' = '*' := hstarred 'a' (htext ▸ List.mem_cons_self)
  exact absurd ha (by decide)

end Command

end IngestCheck
