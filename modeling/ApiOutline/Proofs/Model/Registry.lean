import ApiOutline.Model.Registry
import ApiOutline.Proofs.Text.ByteOrder
import Mathlib.Data.Finset.Card

/-!
# Registries after many additions

Models are added to a registry one after the other, and the first one under a name stays.  What is in the registry at
the end can be read off the list of the models alone: it is those before which there is no model of the same name, in
their order and as they were.

Each statement about a run of additions is shown for a run that starts from any registry, by induction on the models
that are still to come; one addition is described by `get?_add`, `contains_add` and `names_add`.

* `Registry.sorted_congr`: sorting forgets the order in which models were found.
* `Registry.get?_addAll`, `Registry.models_addAll`, `Registry.names_addAll`, `Registry.getElem_addAll_iff`: a run.
* `Registry.HoldsFirsts`, `Registry.holdsFirsts_addAll`: the main statement.
-/

namespace ApiOutline

/-! ## Sorted models -/

theorem Registry.nodup_models (r : Registry) : r.models.Nodup :=
  List.Nodup.of_map Model.name r.nodup

theorem Registry.perm_sorted (r : Registry) : r.sorted.Perm r.models :=
  List.mergeSort_perm _ _

theorem Registry.pairwise_sorted (r : Registry) : r.sorted.Pairwise fun m m' => m.name ≤ m'.name :=
  Text.pairwise_mergeSort Model.name r.models

/-- **Sorting forgets the order in which models were found.**  As no two of them have the same name, there is one way
to sort them. -/
theorem Registry.sorted_congr {r r' : Registry} (h : ∀ m, m ∈ r.models ↔ m ∈ r'.models) : r.sorted = r'.sorted := by
  have hmodels : r.models.Perm r'.models :=
    (List.perm_ext_iff_of_nodup r.nodup_models r'.nodup_models).mpr h
  have hsorted : r.sorted.Perm r'.sorted := r.perm_sorted.trans (hmodels.trans r'.perm_sorted.symm)
  refine hsorted.eq_of_pairwise (fun m m' hm hm' hle hge => ?_) r.pairwise_sorted r'.pairwise_sorted
  have hm : m ∈ r'.models := (h m).mp (List.mem_mergeSort.mp hm)
  have hm' : m' ∈ r'.models := List.mem_mergeSort.mp hm'
  exact List.inj_on_of_nodup_map r'.nodup hm hm' (String.le_antisymm hle hge)

namespace Registry

variable {r : Registry} {m : Model} {ms : List Model} {name : String}

theorem nodup_names_sorted (r : Registry) : (r.sorted.map Model.name).Nodup :=
  (r.perm_sorted.map Model.name).nodup_iff.mpr r.nodup

/-- As no two models have the same name, the names of the sorted models ascend strictly, in the order of their bytes. -/
theorem pairwise_bytes_sorted (r : Registry) :
    r.sorted.Pairwise fun m m' => Text.bytes m.name < Text.bytes m'.name := by
  refine (r.pairwise_sorted.and (List.pairwise_map.mp r.nodup_names_sorted)).imp fun {m m'} h => ?_
  exact Text.bytes_lt_iff.mpr (Std.lt_of_le_of_ne h.1 h.2)

/-! ## A run of additions -/

theorem addAll_cons (r : Registry) (m : Model) (ms : List Model) :
    r.addAll (m :: ms) = ((!r.contains m.name) :: ((r.add m).addAll ms).1, ((r.add m).addAll ms).2) := rfl

theorem names_add (r : Registry) (m : Model) :
    (r.add m).names = if m.name ∈ r.names then r.names else r.names ++ [m.name] := by
  split
  · next h => rw [add_of_contains ((r.contains_eq_true_iff m.name).mpr h)]
  · next h =>
    rw [← contains_eq_true_iff, Bool.not_eq_true] at h
    rw [names, models_add_of_not_contains h, List.map_append]
    rfl

/-- There is one answer for each model. -/
theorem length_addAll (r : Registry) (ms : List Model) : (r.addAll ms).1.length = ms.length := by
  induction ms generalizing r with
  | nil => rfl
  | cons m ms ih => rw [addAll_cons, List.length_cons, List.length_cons, ih]

/-- What is found under a name: what has been there, or else the first model of that name. -/
theorem get?_addAll (r : Registry) (ms : List Model) (name : String) :
    (r.addAll ms).2.get? name = (r.get? name).or (ms.find? fun m => m.name == name) := by
  induction ms generalizing r with
  | nil => exact (Option.or_none).symm
  | cons m ms ih =>
    rw [addAll_cons, ih, get?_add, Option.or_assoc, List.find?_cons]
    by_cases h : m.name = name
    · simp [h]
    · rw [if_neg h, beq_false_of_ne h, Option.none_or]

theorem contains_addAll (r : Registry) (ms : List Model) (name : String) :
    (r.addAll ms).2.contains name = true ↔ r.contains name = true ∨ name ∈ ms.map Model.name := by
  induction ms generalizing r with
  | nil => simp [addAll]
  | cons m ms ih => rw [addAll_cons, ih, contains_add, List.map_cons, List.mem_cons, or_assoc]

/-- A model is added if its name is not taken at the start and no model before it has the name. -/
theorem getElem_addAll_iff (r : Registry) (ms : List Model) (i : Nat) (hi : i < ms.length) :
    (r.addAll ms).1[i]? = some true ↔ r.contains ms[i].name = false ∧ ms[i].name ∉ (ms.take i).map Model.name := by
  induction ms generalizing r i with
  | nil => exact absurd hi (Nat.not_lt_zero i)
  | cons m ms ih =>
    rw [addAll_cons]
    cases i with
    | zero => simp
    | succ i =>
      have hi : i < ms.length := Nat.lt_of_succ_lt_succ hi
      rw [List.getElem?_cons_succ, ih (r.add m) i hi, ← Bool.not_eq_true, contains_add, not_or, ← Bool.not_eq_true,
        List.getElem_cons_succ, List.take_succ_cons, List.map_cons, List.mem_cons, not_or, and_assoc]

/-- The models at the end: those at the start, and then the ones that were added. -/
theorem models_addAll (r : Registry) (ms : List Model) :
    (r.addAll ms).2.models = r.models ++ ((ms.zip (r.addAll ms).1).filter Prod.snd).map Prod.fst := by
  induction ms generalizing r with
  | nil => exact (List.append_nil _).symm
  | cons m ms ih =>
    rw [addAll_cons, ih, List.zip_cons_cons, List.filter_cons]
    cases h : r.contains m.name with
    | true => simp [add_of_contains h]
    | false => simp [models_add_of_not_contains h]

/-- The names at the end: those at the start, and then the other names of the models in their order, each once. -/
theorem names_addAll (r : Registry) (ms : List Model) :
    (r.addAll ms).2.names = r.names ++ ((ms.map Model.name).filter fun name => name ∉ r.names).eraseDups := by
  induction ms generalizing r with
  | nil => exact (List.append_nil _).symm
  | cons m ms ih =>
    rw [addAll_cons, ih, names_add, List.map_cons, List.filter_cons]
    by_cases h : m.name ∈ r.names
    · simp [h]
    · simp [h, List.eraseDups_cons, List.filter_filter, and_comm, beq_eq_decide]

/-! ## Runs from the empty registry -/

/-- A registry holds the first model of each name, and the answers say which of the models these are. -/
structure HoldsFirsts (ms : List Model) (answers : List Bool) (r : Registry) : Prop where
  /-- There is an answer for each model. -/
  length : answers.length = ms.length
  /-- A model is added exactly if no model before it has its name. -/
  added : ∀ (i : Nat) (hi : i < ms.length),
    answers[i]? = some true ↔ ms[i].name ∉ (ms.take i).map Model.name
  /-- The registry lists the models that were added, unchanged and in their order. -/
  models : r.models = ((ms.zip answers).filter Prod.snd).map Prod.fst
  /-- Each name stands once, in the order in which the names came first. -/
  names : r.names = (ms.map Model.name).eraseDups
  /-- Under a name the first model of that name is found. -/
  get : ∀ name, r.get? name = ms.find? fun m => m.name == name
  /-- The names that are taken are those of the models. -/
  contains : ∀ name, r.contains name = true ↔ name ∈ ms.map Model.name
  /-- There are as many models as there are different names. -/
  size : r.size = (ms.map Model.name).toFinset.card
  /-- Sorting loses and changes nothing. -/
  perm : r.sorted.Perm r.models
  /-- The names of the sorted models ascend strictly in the order of their bytes. -/
  ascending : r.sorted.Pairwise fun m m' => Text.bytes m.name < Text.bytes m'.name

/-- **The first model under a name stays.** -/
theorem holdsFirsts_addAll (ms : List Model) : HoldsFirsts ms (empty.addAll ms).1 (empty.addAll ms).2 where
  length := empty.length_addAll ms
  added i hi := by
    rw [getElem_addAll_iff empty ms i hi]
    exact and_iff_right rfl
  models := empty.models_addAll ms
  names := by
    rw [names_addAll, show empty.names = [] from rfl, List.nil_append]
    simp
  get name := empty.get?_addAll ms name
  contains name := by
    rw [contains_addAll]
    exact or_iff_right Bool.false_ne_true
  size := by
    have hnodup : (empty.addAll ms).2.names.Nodup := (empty.addAll ms).2.nodup
    rw [size, ← List.length_map Model.name, ← names, ← List.toFinset_card_of_nodup hnodup]
    congr 1
    ext name
    rw [List.mem_toFinset, List.mem_toFinset, ← contains_eq_true_iff, contains_addAll]
    exact or_iff_right Bool.false_ne_true
  perm := perm_sorted _
  ascending := pairwise_bytes_sorted _

end Registry

end ApiOutline
