import ApiOutline.Naming.Path
import ApiOutline.Proofs.Naming.Words
import ApiOutline.Proofs.Text.Case
import ApiOutline.Text.Split

/-!
# Full names

A full name is made of parts with underscores between them.  A part is a segment in camel case, and neither the words
of a segment nor their case forms have an underscore in them.  So the parts can be told from the name again, and two
paths have the same full name only if they have the same parts.

The name of the service may be any text.  It is the same for all paths and stands in front, so it takes nothing away:
what comes after it is nothing, or an underscore and the parts.

* `segmentsOf_append_slash`: only the stretches between slashes count.
* `underscore_notMem_camelCase`: the parts are free of underscores.
* `intercalate_inj`: parts that are joined.
* `NamingRules.nameParts_eq`: the parts of a path, spelled out.
* `NamingRules.fullName_eq_iff`: the main statement.
-/

namespace ApiOutline

namespace Naming

/-! ## Segments -/

theorem segmentsOf_slash_cons (text : List Char) : segmentsOf ('/' :: text) = segmentsOf text := by
  rw [segmentsOf, if_pos rfl]

theorem segmentsOf_cons_of_ne {c : Char} (hc : c ≠ '/') (rest : List Char) :
    segmentsOf (c :: rest) =
      if rest.head?.any (· != '/') then extend c (segmentsOf rest) else [c] :: segmentsOf rest := by
  rw [segmentsOf, if_neg hc]

/-- The segments of a path are the stretches between its slashes that are not empty. -/
theorem segmentsOf_eq (text : List Char) :
    segmentsOf text = (Text.splitOn '/' text).filter (!·.isEmpty) := by
  induction text with
  | nil => rfl
  | cons c rest ih =>
    by_cases hc : c = '/'
    · rw [hc, segmentsOf_slash_cons, Text.splitOn, if_pos rfl, ih]
      rfl
    · rw [segmentsOf_cons_of_ne hc, Text.splitOn, if_neg hc, ih]
      cases rest with
      | nil => rfl
      | cons d rest =>
        rw [Text.splitOn]
        by_cases hd : d = '/'
        · simp [hd]
        · rw [if_neg hd]
          cases Text.splitOn '/' rest <;> simp [hd, extend]

theorem splitOn_append_cons (d : Char) (text rest : List Char) :
    Text.splitOn d (text ++ d :: rest) = Text.splitOn d text ++ Text.splitOn d rest := by
  induction text with
  | nil => simp [Text.splitOn]
  | cons c text ih =>
    rw [List.cons_append, Text.splitOn, Text.splitOn, ih]
    split
    · rfl
    · obtain ⟨part, parts, hparts⟩ := List.exists_cons_of_ne_nil (Text.splitOn_ne_nil d text)
      rw [hparts]
      rfl

/-- **A slash only separates segments.** -/
theorem segmentsOf_append_slash (text rest : List Char) :
    segmentsOf (text ++ '/' :: rest) = segmentsOf text ++ segmentsOf rest := by
  simp only [segmentsOf_eq, splitOn_append_cons, List.filter_append]

/-! ## Camel case -/

/-- An underscore has no case. -/
theorem caseless_underscore : Text.Caseless (Text.runsOf ['_']) :=
  ⟨by decide, by decide +kernel, by decide +kernel⟩

/-- An underscore is the lower-case form of no other character. -/
theorem neverLowered_underscore : Text.NeverLowered (Text.runsOf ['_']) where
  null := by decide
  shifts := by decide +kernel
  special := by
    simp only [List.forall_mem_cons, List.not_mem_nil, false_implies, implies_true, and_true]
    decide +kernel

theorem memRuns_underscore_eq_false_iff {c : Char} : Text.memRuns (Text.runsOf ['_']) c = false ↔ c ≠ '_' := by
  rw [← Bool.not_eq_true, Text.memRuns_runsOf, List.mem_singleton]

theorem underscore_notMem_lowercase {w : List Char} (h : '_' ∉ w) : '_' ∉ Text.lowercase w := fun hmem =>
  h (neverLowered_underscore.mem_of_mem_lowercase (Text.memRuns_runsOf.mpr List.mem_cons_self) hmem)

theorem underscore_notMem_capitalize {w : List Char} (h : '_' ∉ w) : '_' ∉ Text.capitalize w := by
  have hw : ∀ c ∈ w, Text.memRuns (Text.runsOf ['_']) c = false := fun c hc =>
    memRuns_underscore_eq_false_iff.mpr fun heq => h (heq ▸ hc)
  exact fun hmem => memRuns_underscore_eq_false_iff.mp (caseless_underscore.forall_capitalize_iff.mpr hw '_' hmem) rfl

theorem underscore_notMem_joinCamel {ws : List (List Char)} (h : ∀ w ∈ ws, '_' ∉ w) : '_' ∉ joinCamel ws := by
  cases ws with
  | nil => exact List.not_mem_nil
  | cons w ws =>
    rw [joinCamel, List.mem_append, List.mem_flatMap, not_or]
    refine ⟨underscore_notMem_lowercase (h w List.mem_cons_self), ?_⟩
    rintro ⟨w', hw', hmem⟩
    exact underscore_notMem_capitalize (underscore_notMem_lowercase (h w' (List.mem_cons_of_mem _ hw'))) hmem

/-- **There is no underscore in a text in camel case.** -/
theorem underscore_notMem_camelCase (s : String) : '_' ∉ (camelCase s).toList := by
  rw [camelCase, String.toList_ofList]
  refine underscore_notMem_joinCamel fun w hw hmem => ?_
  exact absurd (isWordChar_of_mem_words hw hmem) (by decide +kernel)

/-! ## Parts that are joined -/

section

variable {front parts parts' : List String}

/-- Parts that can be told from what they are joined to. -/
def AreParts (parts : List String) : Prop :=
  ∀ s ∈ parts, s ≠ "" ∧ '_' ∉ s.toList

theorem AreParts.splitOn_intercalate (h : AreParts parts) (hne : parts ≠ []) :
    List.splitOn '_' ("_".intercalate parts).toList = parts.map String.toList := by
  rw [String.toList_intercalate]
  refine List.splitOn_intercalate '_' (fun l hl => ?_) (by simpa using hne)
  obtain ⟨s, hs, rfl⟩ := List.mem_map.mp hl
  exact (h s hs).2

theorem AreParts.intercalate_eq_empty_iff (h : AreParts parts) : "_".intercalate parts = "" ↔ parts = [] := by
  refine ⟨fun hempty => ?_, fun hnil => by rw [hnil]; rfl⟩
  by_contra hne
  have hsplit := h.splitOn_intercalate hne
  rw [hempty] at hsplit
  obtain ⟨s, parts, rfl⟩ := List.exists_cons_of_ne_nil hne
  have hs : s.toList = [] := by
    rw [List.map_cons] at hsplit
    exact (List.cons.inj hsplit).1.symm
  exact (h s List.mem_cons_self).1 (String.toList_eq_nil_iff.mp hs)

/-- **What is joined by underscores can be told apart.** -/
theorem intercalate_inj (h : AreParts parts) (h' : AreParts parts') :
    "_".intercalate parts = "_".intercalate parts' ↔ parts = parts' := by
  refine ⟨fun heq => ?_, fun heq => by rw [heq]⟩
  by_cases hnil : parts = []
  · rw [hnil] at heq ⊢
    exact (h'.intercalate_eq_empty_iff.mp heq.symm).symm
  · have hnil' : parts' ≠ [] := fun hnil' => hnil (h.intercalate_eq_empty_iff.mp (by rw [heq, hnil']; rfl))
    have hmap := h.splitOn_intercalate hnil
    rw [heq, h'.splitOn_intercalate hnil'] at hmap
    exact (List.map_inj_right fun _ _ => String.toList_inj.mp).mp hmap.symm

/-- What is joined behind a text: nothing, or an underscore before it. -/
theorem toList_intercalate_cons (base : String) (parts : List String) :
    ("_".intercalate (base :: parts)).toList =
      base.toList ++ if parts = [] then [] else '_' :: ("_".intercalate parts).toList := by
  cases parts with
  | nil => simp
  | cons s parts => simp [String.toList_intercalate]

/-- The same text in front takes nothing away. -/
theorem intercalate_cons_inj (base : String) (h : AreParts parts) (h' : AreParts parts') :
    "_".intercalate (base :: parts) = "_".intercalate (base :: parts') ↔ parts = parts' := by
  refine ⟨fun heq => ?_, fun heq => by rw [heq]⟩
  rw [← String.toList_inj, toList_intercalate_cons, toList_intercalate_cons, List.append_cancel_left_eq] at heq
  by_cases hnil : parts = [] <;> by_cases hnil' : parts' = []
  · rw [hnil, hnil']
  · simp [hnil, hnil'] at heq
  · simp [hnil, hnil'] at heq
  · rw [if_neg hnil, if_neg hnil', List.cons.injEq, String.toList_inj] at heq
    exact (intercalate_inj h h').mp heq.2

end

end Naming

namespace NamingRules

open Naming

theorem areParts_nameParts (r : NamingRules) (path : String) : AreParts (r.nameParts path) := by
  intro s hs
  obtain ⟨hmem, hne⟩ := List.mem_filter.mp hs
  obtain ⟨part, -, rfl⟩ := List.mem_map.mp hmem
  exact ⟨by simpa using hne, underscore_notMem_camelCase part.1⟩

theorem segments_empty : segments "" = [] := rfl

theorem segments_append_slash (p q : String) : segments (p ++ "/" ++ q) = segments p ++ segments q := by
  have htext : (p ++ "/" ++ q).toList = p.toList ++ '/' :: q.toList := by simp
  rw [segments, htext, segmentsOf_append_slash, List.map_append]
  rfl

theorem fullName_congr (r : NamingRules) {p q : String} (h : segments p = segments q) : r.fullName p = r.fullName q := by
  rw [fullName, fullName, nameParts, nameParts, h]

/-- The parts of a full name, spelled out: the stretches between slashes that are not empty, without those at the
positions that are cut, in camel case, without empty ones. -/
theorem nameParts_eq (r : NamingRules) (path : String) :
    r.nameParts path =
      (((((Text.splitOn '/' path.toList).filter (· ≠ [])).map String.ofList).zipIdx.filter (·.2 ∉ r.cut)).map
        fun part => camelCase part.1).filter (· ≠ "") := by
  have hsegment : ∀ s : List Char, (!s.isEmpty) = decide (s ≠ []) := fun s => by cases s <;> rfl
  have hpart : ∀ s : String, (!s.isEmpty) = decide (s ≠ "") := fun s => by
    rw [Bool.eq_iff_iff]
    simp
  have hcut : ∀ n, (!r.cut.contains n) = decide (n ∉ r.cut) := fun n => by simp
  simp only [nameParts, segments, segmentsOf_eq, hsegment, hpart, hcut]

/-- **Full names are the same exactly where their parts are.**  The parts are the segments of the path in camel case,
without those that are cut and those that have no letter and no numeral.  A slash at either end of a path does not
matter, and two slashes are as good as one. -/
theorem fullName_eq_iff (r : NamingRules) :
    let parts (path : String) : List String :=
      (((((Text.splitOn '/' path.toList).filter (· ≠ [])).map String.ofList).zipIdx.filter (·.2 ∉ r.cut)).map
        fun part => camelCase part.1).filter (· ≠ "")
    (∀ p q, r.fullName p = r.fullName q ↔ parts p = parts q) ∧
      (∀ p, r.fullName ("/" ++ p) = r.fullName p ∧ r.fullName (p ++ "/") = r.fullName p) ∧
      ∀ p q, r.fullName (p ++ "//" ++ q) = r.fullName (p ++ "/" ++ q) := by
  intro parts
  have hparts : ∀ path, parts path = r.nameParts path := fun path => (r.nameParts_eq path).symm
  refine ⟨fun p q => ?_, fun p => ⟨?_, ?_⟩, fun p q => ?_⟩
  · have hp := r.areParts_nameParts p
    have hq := r.areParts_nameParts q
    rw [hparts, hparts, fullName, fullName]
    cases r.serviceName? with
    | none =>
      rw [Option.toList_none, List.nil_append, List.nil_append]
      exact intercalate_inj hp hq
    | some base =>
      rw [Option.toList_some, List.singleton_append, List.singleton_append]
      exact intercalate_cons_inj base hp hq
  · refine r.fullName_congr ?_
    have h := segments_append_slash "" p
    rwa [String.empty_append, segments_empty, List.nil_append] at h
  · refine r.fullName_congr ?_
    have h := segments_append_slash p ""
    rwa [String.append_empty, segments_empty, List.append_nil] at h
  · refine r.fullName_congr ?_
    have hslashes : p ++ "//" ++ q = p ++ "/" ++ "" ++ "/" ++ q := by
      simp only [← String.toList_inj, String.toList_append]
      simp
    rw [hslashes, segments_append_slash, segments_append_slash, segments_append_slash, segments_empty, List.append_nil]

end NamingRules

end ApiOutline
