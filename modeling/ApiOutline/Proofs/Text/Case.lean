import ApiOutline.Text.Blank
import ApiOutline.Text.Case
import Mathlib.Data.List.Basic

/-!
# Characters that case leaves alone

Some classes of characters have nothing to do with case: none of their members has another upper-case form, and none
of them occurs in the upper-case form of another character.  Whether a class is of this kind can be read off the tables
of the upper-case forms, as the stretches in them lie apart from the runs of the class.

Putting the first character of a text in upper case neither takes members of such a class away nor brings any in.

* `Caseless`: the classes that case leaves alone; white space is one of them.
* `Caseless.memRuns_of_mem_upper`: the upper-case form of a character.
* `Caseless.forall_capitalize_iff`, `Caseless.head_capitalize_iff`: texts with their first character in upper case.
* `NeverLowered`: the classes that lower case leads to from none of the other characters, with
  `NeverLowered.mem_of_mem_lowercase` for texts.
-/

namespace ApiOutline.Text

variable {runs : List Run}

/-! ## Classes -/

/-- The class that has the given characters as its members. -/
def runsOf (cs : List Char) : List Run :=
  cs.map fun c => ⟨c.toNat, c.toNat, 1⟩

theorem memRuns_runsOf {cs : List Char} {c : Char} : memRuns (runsOf cs) c = true ↔ c ∈ cs := by
  have hcovers : ∀ c' : Char, Run.covers ⟨c'.toNat, c'.toNat, 1⟩ c.toNat = true ↔ c' = c := by
    intro c'
    simp only [Run.covers, Nat.mod_one, Bool.and_eq_true, decide_eq_true_eq, beq_self_eq_true, and_true]
    rw [← Nat.le_antisymm_iff, Char.toNat_inj]
  simp only [memRuns, runsOf, List.any_map, List.any_eq_true, Function.comp_apply, hcovers, exists_eq_right]

/-- The code points from `first` to `last` lie apart from the runs. -/
def Apart (runs : List Run) (first last : Nat) : Prop :=
  ∀ r ∈ runs, last < r.first ∨ r.last < first

instance (first last : Nat) : Decidable (Apart runs first last) :=
  inferInstanceAs (Decidable (∀ r ∈ runs, last < r.first ∨ r.last < first))

theorem Run.bounds_of_covers {r : Run} {n : Nat} (h : r.covers n = true) : r.first ≤ n ∧ n ≤ r.last := by
  simp only [Run.covers, Bool.and_eq_true, decide_eq_true_eq] at h
  exact h.1

theorem Apart.memRuns_eq_false {first last : Nat} (h : Apart runs first last) {c : Char} (hfirst : first ≤ c.toNat)
    (hlast : c.toNat ≤ last) : memRuns runs c = false := by
  rw [memRuns, List.any_eq_false]
  intro r hr hcovers
  obtain ⟨hmin, hmax⟩ := Run.bounds_of_covers hcovers
  have hapart := h r hr
  omega

/-- A class of characters that case leaves alone: none of them is moved, and none of them is where another character is
moved to. -/
structure Caseless (runs : List Run) : Prop where
  /-- A number that is no code point stands for the null character. -/
  null : Apart runs 0 0
  shifts : ∀ s ∈ upperShifts,
    Apart runs s.first s.last ∧ Apart runs s.image (s.image + (s.last - s.first))
  sequences : ∀ p ∈ upperSequences, ∀ n ∈ p.1 :: p.2, Apart runs n n

/-- White space is left alone. -/
theorem caseless_blankRuns : Caseless blankRuns :=
  ⟨by decide, by decide +kernel, by decide +kernel⟩

/-! ## Upper case -/

theorem toNat_ofNat_cases (n : Nat) : (Char.ofNat n).toNat = n ∨ (Char.ofNat n).toNat = 0 := by
  by_cases hvalid : n.isValidChar
  · have hchar : Char.ofNat n = Char.ofNatAux n hvalid := dif_pos hvalid
    exact Or.inl (congrArg Char.toNat hchar)
  · have hchar : Char.ofNat n = '\x00' := dif_neg hvalid
    exact Or.inr (congrArg Char.toNat hchar)

theorem Caseless.memRuns_ofNat (h : Caseless runs) {first last n : Nat} (hapart : Apart runs first last)
    (hfirst : first ≤ n) (hlast : n ≤ last) : memRuns runs (Char.ofNat n) = false := by
  rcases toNat_ofNat_cases n with hn | hn
  · exact hapart.memRuns_eq_false (hn.symm ▸ hfirst) (hn.symm ▸ hlast)
  · exact h.null.memRuns_eq_false (Nat.zero_le _) (Nat.le_of_eq hn)

/-- **The upper-case form of a character lies in the class if and only if the character does.** -/
theorem Caseless.memRuns_of_mem_upper (h : Caseless runs) {c c' : Char} (hc : c' ∈ upper c) :
    memRuns runs c' = memRuns runs c := by
  unfold upper at hc
  split at hc
  · next codes hcodes =>
    obtain ⟨before, after, hentries, -⟩ := List.lookup_eq_some_iff.mp hcodes
    have hapart := h.sequences (c.toNat, codes) (by rw [hentries]; simp)
    obtain ⟨n, hn, rfl⟩ := List.mem_map.mp hc
    rw [h.memRuns_ofNat (hapart n (List.mem_cons_of_mem _ hn)) (Nat.le_refl _) (Nat.le_refl _),
      (hapart c.toNat List.mem_cons_self).memRuns_eq_false (Nat.le_refl _) (Nat.le_refl _)]
  · rw [List.mem_singleton] at hc
    cases hshift : upperShifts.find? fun s => s.run.covers c.toNat with
    | none =>
      rw [shifted, hshift, Option.map_none, Option.getD_none] at hc
      rw [hc]
    | some s =>
      rw [shifted, hshift, Option.map_some, Option.getD_some] at hc
      obtain ⟨hfrom, hto⟩ := h.shifts s (List.mem_of_find?_eq_some hshift)
      obtain ⟨hfirst, hlast⟩ : s.first ≤ c.toNat ∧ c.toNat ≤ s.last :=
        Run.bounds_of_covers (List.find?_some (p := fun s : Shift => s.run.covers c.toNat) hshift)
      rw [hc, hfrom.memRuns_eq_false hfirst hlast]
      exact h.memRuns_ofNat hto (Nat.le_add_right _ _) (by omega)

theorem upper_ne_nil (c : Char) : upper c ≠ [] := by
  have hsequences : ∀ p ∈ upperSequences, p.2 ≠ [] := by decide
  unfold upper
  split
  · next codes hcodes =>
    obtain ⟨before, after, hentries, -⟩ := List.lookup_eq_some_iff.mp hcodes
    have hne : codes ≠ [] := hsequences (c.toNat, codes) (by rw [hentries]; simp)
    exact fun hnil => hne (List.map_eq_nil_iff.mp hnil)
  · exact List.cons_ne_nil _ _

/-! ## Texts -/

/-- A text with its first character in upper case has no character of the class if and only if the text has none. -/
theorem Caseless.forall_capitalize_iff (h : Caseless runs) {cs : List Char} :
    (∀ c ∈ capitalize cs, memRuns runs c = false) ↔ ∀ c ∈ cs, memRuns runs c = false := by
  cases cs with
  | nil => exact Iff.rfl
  | cons c cs =>
    obtain ⟨c', hc'⟩ := List.exists_mem_of_ne_nil _ (upper_ne_nil c)
    rw [capitalize, List.forall_mem_append, List.forall_mem_cons]
    refine and_congr_left fun _ => ⟨fun hupper => ?_, fun hc c'' hc'' => ?_⟩
    · rw [← h.memRuns_of_mem_upper hc']
      exact hupper c' hc'
    · rw [h.memRuns_of_mem_upper hc'']
      exact hc

/-- A text with its first character in upper case begins with a character of the class if and only if the text does. -/
theorem Caseless.head_capitalize_iff (h : Caseless runs) {cs : List Char} :
    (∀ c, (capitalize cs).head? = some c → memRuns runs c = false) ↔
      ∀ c, cs.head? = some c → memRuns runs c = false := by
  cases cs with
  | nil => exact Iff.rfl
  | cons c cs =>
    obtain ⟨c', rest, hupper⟩ := List.exists_cons_of_ne_nil (upper_ne_nil c)
    have hc' : memRuns runs c' = memRuns runs c :=
      h.memRuns_of_mem_upper (by rw [hupper]; exact List.mem_cons_self)
    rw [capitalize, hupper]
    simp only [List.cons_append, List.head?_cons, Option.some.injEq, forall_eq', hc']

/-! ## Lower case -/

/-- The characters between the capital and the small letters of the alphabet, and the small letters, stay as they
are. -/
theorem lower_eq_self {c : Char} (hfirst : 90 < c.toNat) (hlast : c.toNat < 123) : lower c = [c] := by
  have hshifts : (lowerShifts.all fun s => s.last ≤ 90 || 123 ≤ s.first) = true := by decide
  have hnone : lowerShifts.find? (fun s => s.run.covers c.toNat) = none := by
    refine List.find?_eq_none.mpr fun s hs hcovers => ?_
    obtain ⟨hmin, hmax⟩ : s.first ≤ c.toNat ∧ c.toNat ≤ s.last := Run.bounds_of_covers hcovers
    have hs : s.last ≤ 90 ∨ 123 ≤ s.first := by simpa using List.all_eq_true.mp hshifts s hs
    omega
  have hdotted : c ≠ '\u0130' := by
    rintro rfl
    exact absurd hlast (by decide)
  rw [lower, if_neg hdotted, shifted, hnone, Option.map_none, Option.getD_none]

/-- A class of characters that lower case does not lead to: none of them is where another character is moved to. -/
structure NeverLowered (runs : List Run) : Prop where
  /-- A number that is no code point stands for the null character. -/
  null : Apart runs 0 0
  shifts : ∀ s ∈ lowerShifts, Apart runs s.image (s.image + (s.last - s.first))
  /-- The two parts of a dotted `i`, and the two forms of a sigma. -/
  special : ∀ c ∈ ['i', '\u0307', 'ς', 'σ'], memRuns runs c = false

theorem NeverLowered.eq_of_mem_lower (h : NeverLowered runs) {c c' : Char} (hc : c' ∈ lower c)
    (hclass : memRuns runs c' = true) : c' = c := by
  unfold lower at hc
  split at hc
  · have hspecial : c' ∈ ['i', '\u0307', 'ς', 'σ'] := List.mem_append_left ['ς', 'σ'] hc
    exact absurd (h.special c' hspecial) (by simp [hclass])
  · rw [List.mem_singleton] at hc
    cases hshift : lowerShifts.find? fun s => s.run.covers c.toNat with
    | none => rw [hc, shifted, hshift, Option.map_none, Option.getD_none]
    | some s =>
      rw [shifted, hshift, Option.map_some, Option.getD_some] at hc
      obtain ⟨hfirst, hlast⟩ : s.first ≤ c.toNat ∧ c.toNat ≤ s.last :=
        Run.bounds_of_covers (List.find?_some (p := fun s : Shift => s.run.covers c.toNat) hshift)
      have himage := h.shifts s (List.mem_of_find?_eq_some hshift)
      -- the image is the null character or lies in a stretch apart from the class
      have hfalse : memRuns runs c' = false := by
        rw [hc]
        rcases toNat_ofNat_cases (s.image + (c.toNat - s.first)) with hn | hn
        · exact himage.memRuns_eq_false (by omega) (by omega)
        · exact h.null.memRuns_eq_false (Nat.zero_le _) (Nat.le_of_eq hn)
      exact absurd hclass (by simp [hfalse])

theorem NeverLowered.mem_of_mem_lowercaseAfter (h : NeverLowered runs) {c : Char} (hclass : memRuns runs c = true)
    {before cs : List Char} (hc : c ∈ lowercaseAfter before cs) : c ∈ cs := by
  induction cs generalizing before with
  | nil => exact hc
  | cons c' cs ih =>
    rw [lowercaseAfter] at hc
    split at hc
    · rcases List.mem_cons.mp hc with hsigma | hc
      · have hspecial : c ∈ ['i', '\u0307', 'ς', 'σ'] := by
          rw [hsigma]
          split <;> decide
        exact absurd (h.special c hspecial) (by simp [hclass])
      · exact List.mem_cons_of_mem _ (ih hc)
    · rcases List.mem_append.mp hc with hlower | hc
      · exact List.mem_cons.mpr (Or.inl (h.eq_of_mem_lower hlower hclass))
      · exact List.mem_cons_of_mem _ (ih hc)

/-- **What occurs of the class in the lower-case form of a text occurs in the text.** -/
theorem NeverLowered.mem_of_mem_lowercase (h : NeverLowered runs) {c : Char} (hclass : memRuns runs c = true)
    {cs : List Char} (hc : c ∈ lowercase cs) : c ∈ cs :=
  h.mem_of_mem_lowercaseAfter hclass hc

/-- A text stays as it is in lower case if each of its characters does. -/
theorem lowercase_eq_self {cs : List Char} (h : ∀ c ∈ cs, c ≠ 'Σ' ∧ lower c = [c]) : lowercase cs = cs := by
  have hafter : ∀ before, lowercaseAfter before cs = cs := by
    induction cs with
    | nil => exact fun _ => rfl
    | cons c cs ih =>
      obtain ⟨⟨hsigma, hlower⟩, hcs⟩ := List.forall_mem_cons.mp h
      exact fun before => by rw [lowercaseAfter, if_neg hsigma, hlower, ih hcs, List.singleton_append]
  exact hafter []

end ApiOutline.Text
