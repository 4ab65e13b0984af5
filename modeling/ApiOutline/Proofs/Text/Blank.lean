import ApiOutline.Text.Blank
import Mathlib.Data.List.DropRight

/-!
# Texts without white space at their ends

Trimming takes away white space at the two ends of a text and nothing else.  A trimmed text is one that has
none there, so trimming it again changes nothing.

* `trimChars_eq_self_iff`: the trimmed texts.
* `trimChars_trimChars`: trimming twice.
* `mem_trimChars`, `trimChars_cons_of_isBlank`: what trimming leaves, what it takes away.
-/

namespace ApiOutline.Text

theorem trimChars_eq_rdropWhile (s : List Char) :
    trimChars s = (s.dropWhile isBlank).rdropWhile isBlank := rfl

/-- Trimming takes characters away and adds none. -/
theorem mem_of_mem_trimChars {s : List Char} {c : Char} (h : c ∈ trimChars s) : c ∈ s :=
  (List.dropWhile_suffix isBlank).subset ((List.rdropWhile_prefix isBlank _).subset h)

/-- Characters that are no white space stay. -/
theorem mem_trimChars {s : List Char} {c : Char} (h : c ∈ s) (hc : isBlank c = false) :
    c ∈ trimChars s := by
  rw [← List.takeWhile_append_dropWhile (p := isBlank) (l := s)] at h
  rcases List.mem_append.mp h with htake | hdrop
  · rw [List.mem_takeWhile_imp htake] at hc
    exact absurd hc (by simp)
  rw [← List.rdropWhile_append_rtakeWhile (p := isBlank) (l := s.dropWhile isBlank)] at hdrop
  rcases List.mem_append.mp hdrop with hdrop | htake
  · exact hdrop
  · rw [List.mem_rtakeWhile_imp htake] at hc
    exact absurd hc (by simp)

/-! ## Trimmed texts -/

/-- The first character that trimming leaves is not white space. -/
theorem isBlank_of_head?_trimChars {s : List Char} {c : Char} (h : (trimChars s).head? = some c) :
    isBlank c = false := by
  obtain ⟨t, ht⟩ := List.rdropWhile_prefix isBlank (s.dropWhile isBlank)
  have hnot := List.head?_dropWhile_not isBlank s
  rw [← ht, List.head?_append, ← trimChars_eq_rdropWhile, h] at hnot
  exact hnot

/-- The last character that trimming leaves is not white space. -/
theorem isBlank_of_getLast?_trimChars {s : List Char} {c : Char}
    (h : (trimChars s).getLast? = some c) : isBlank c = false := by
  have hnot := List.head?_dropWhile_not isBlank (s.dropWhile isBlank).reverse
  rw [trimChars, List.getLast?_reverse] at h
  rw [h] at hnot
  exact hnot

/-- A text is trimmed when neither its first nor its last character is white space. -/
theorem trimChars_eq_self_iff {s : List Char} : trimChars s = s ↔
    (∀ c, s.head? = some c → isBlank c = false) ∧
      (∀ c, s.getLast? = some c → isBlank c = false) := by
  constructor
  · intro h
    refine ⟨fun c hc => ?_, fun c hc => ?_⟩
    · rw [← h] at hc
      exact isBlank_of_head?_trimChars hc
    · rw [← h] at hc
      exact isBlank_of_getLast?_trimChars hc
  · rintro ⟨hhead, hlast⟩
    have hdrop : s.dropWhile isBlank = s := by
      cases s with
      | nil => rfl
      | cons c s => rw [List.dropWhile_cons_of_neg (by simp [hhead c rfl])]
    rw [trimChars_eq_rdropWhile, hdrop, List.rdropWhile_eq_self_iff]
    exact fun hne => by simp [hlast _ (List.getLast?_eq_some_getLast hne)]

@[simp] theorem trimChars_trimChars (s : List Char) : trimChars (trimChars s) = trimChars s :=
  trimChars_eq_self_iff.mpr
    ⟨fun _ => isBlank_of_head?_trimChars, fun _ => isBlank_of_getLast?_trimChars⟩

/-- White space at the beginning is of no account. -/
theorem trimChars_cons_of_isBlank {c : Char} (h : isBlank c = true) (s : List Char) :
    trimChars (c :: s) = trimChars s := by
  rw [trimChars_eq_rdropWhile, List.dropWhile_cons_of_pos h, ← trimChars_eq_rdropWhile]

end ApiOutline.Text
