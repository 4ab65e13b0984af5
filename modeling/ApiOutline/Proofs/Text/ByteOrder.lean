import Mathlib.Tactic.SplitIfs

/-!
# The order of texts by their bytes

Texts are compared character by character, by code points.  This is the order of their UTF-8 forms, byte by byte.
A character is written as one to four bytes.  The first byte grows with the length of the form, and within one
length the bytes are the digits of the code point, highest first.  So of two different characters the smaller one
has the smaller form, and they differ before either form ends: what stands behind them does not matter.

* `bytes`: the UTF-8 form of a text.
* `utf8EncodeChar_append_lt`: two different characters, whatever follows them.
* `bytes_lt_iff`, `bytes_le_iff`: the order of texts.
* `pairwise_mergeSort`: what is sorted by its names.
* `pairwise_eraseDups`, `nodup_eraseDups`: names of which each is kept once.
-/

namespace ApiOutline.Text

/-- The bytes of a text in UTF-8. -/
def bytes (s : String) : List UInt8 :=
  s.toUTF8.data.toList

theorem bytes_eq_flatMap (s : String) : bytes s = s.toList.flatMap String.utf8EncodeChar := by
  rw [bytes, String.toUTF8_eq_toByteArray, ← String.utf8Encode_toList, List.utf8Encode]
  simp

/-- Two different characters decide the order of what they begin. -/
theorem utf8EncodeChar_append_lt {a b : Char} (h : a < b) (l l' : List UInt8) :
    String.utf8EncodeChar a ++ l < String.utf8EncodeChar b ++ l' := by
  have hlt : a.val.toNat < b.val.toNat := h
  have hvalid : b.val.toNat < 1114112 := by
    rcases b.valid with hb | ⟨-, hb⟩
    · exact Nat.lt_trans hb (by decide)
    · exact hb
  unfold String.utf8EncodeChar
  dsimp only
  generalize a.val.toNat = m at *
  generalize b.val.toNat = n at *
  -- one case for each pair of lengths; where they differ, the first bytes do
  split_ifs <;>
    simp only [List.cons_append, List.nil_append, List.cons_lt_cons_iff, UInt8.lt_iff_toNat_lt,
      UInt8.toNat_ofNat', ← UInt8.toNat_inj] <;>
    simp (disch := omega) only [Nat.mod_eq_of_lt] <;>
    omega

/-- A text that comes before another one has the smaller bytes. -/
theorem flatMap_utf8EncodeChar_lt {s t : List Char} (h : s < t) :
    s.flatMap String.utf8EncodeChar < t.flatMap String.utf8EncodeChar := by
  induction s generalizing t with
  | nil =>
    cases t with
    | nil => exact absurd h (List.lt_irrefl _)
    | cons b t =>
      rw [List.flatMap_nil, List.flatMap_cons]
      cases hb : String.utf8EncodeChar b with
      | nil => exact absurd hb String.utf8EncodeChar_ne_nil
      | cons x l => exact List.nil_lt_cons x _
  | cons a s ih =>
    cases t with
    | nil => exact absurd h (List.not_lt_nil _)
    | cons b t =>
      rw [List.flatMap_cons, List.flatMap_cons]
      rcases List.cons_lt_cons_iff.mp h with hab | ⟨rfl, hst⟩
      · exact utf8EncodeChar_append_lt hab _ _
      · exact List.append_left_lt (ih hst)

theorem bytes_lt_of_lt {s t : String} (h : s < t) : bytes s < bytes t := by
  rw [bytes_eq_flatMap, bytes_eq_flatMap]
  exact flatMap_utf8EncodeChar_lt (String.lt_iff.mp h)

/-- **The order of texts is the order of their bytes.** -/
theorem bytes_le_iff {s t : String} : bytes s ≤ bytes t ↔ s ≤ t := by
  constructor
  · intro h
    rw [← String.not_lt]
    exact fun hlt => List.not_lt.mpr h (bytes_lt_of_lt hlt)
  · intro h hlt
    -- two texts that are not in order are equal or the other way round
    by_cases hst : s < t
    · exact List.lt_asymm hlt (bytes_lt_of_lt hst)
    · rw [String.le_antisymm h (String.not_lt.mp hst)] at hlt
      exact List.lt_irrefl _ hlt

theorem bytes_lt_iff {s t : String} : bytes s < bytes t ↔ s < t := by
  rw [← String.not_le, ← bytes_le_iff]
  exact ⟨fun h hle => hle h, fun h => Decidable.not_not.mp h⟩

/-! ## Sorting by names -/

section

variable {α : Type} (name : α → String)

theorem decide_le_trans (a b c : α) (hab : decide (name a ≤ name b) = true)
    (hbc : decide (name b ≤ name c) = true) : decide (name a ≤ name c) = true :=
  decide_eq_true (String.le_trans (of_decide_eq_true hab) (of_decide_eq_true hbc))

theorem decide_le_total (a b : α) : (decide (name a ≤ name b) || decide (name b ≤ name a)) = true := by
  rw [Bool.or_eq_true, decide_eq_true_eq, decide_eq_true_eq]
  exact String.le_total _ _

/-- The names of what is sorted by them ascend. -/
theorem pairwise_mergeSort (l : List α) :
    (l.mergeSort fun a b => decide (name a ≤ name b)).Pairwise fun a b => name a ≤ name b :=
  (List.pairwise_mergeSort (decide_le_trans name) (decide_le_total name) l).imp of_decide_eq_true

end

/-! ## Names kept once -/

/-- Names that are related pair by pair are so when each of them is kept once, and then they are different too. -/
theorem pairwise_eraseDups {R : String → String → Prop} : ∀ {names : List String}, names.Pairwise R →
    names.eraseDups.Pairwise fun a b => R a b ∧ a ≠ b
  | [], _ => .nil
  | name :: names, h => by
    obtain ⟨hname, hnames⟩ := List.pairwise_cons.mp h
    rw [List.eraseDups_cons, List.pairwise_cons]
    refine ⟨fun other hother => ?_, pairwise_eraseDups (hnames.filter _)⟩
    rw [List.mem_eraseDups, List.mem_filter] at hother
    have hne : other ≠ name := by simpa using hother.2
    exact ⟨hname other hother.1, hne.symm⟩
termination_by names => names.length
decreasing_by
  rw [List.length_cons]
  exact Nat.lt_succ_of_le (List.length_filter_le _ _)

theorem nodup_eraseDups (names : List String) : names.eraseDups.Nodup :=
  (pairwise_eraseDups (List.pairwise_of_forall (R := fun _ _ => True) fun _ _ => trivial)).imp And.right

end ApiOutline.Text
