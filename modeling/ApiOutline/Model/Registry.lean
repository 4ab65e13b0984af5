import ApiOutline.Model.Basic

/-!
# Registries

A registry holds the models found so far, in the order in which they were found.  A name is given
away once: a model whose name is taken is left out.

* `Registry.add`: a registry with one more model, unless its name is taken.
* `Registry.addIfAbsent`, `Registry.addAll`: adding models, and saying which of them were added.
* `Registry.get?`, `Registry.contains`: looking a name up.
* `Registry.get?_add`: a name is given away once.
* `Registry.sorted`: the models in ascending order of their names.
-/

namespace ApiOutline

/-- Models with different names, in the order in which they were found. -/
structure Registry where
  models : List Model
  nodup : (models.map Model.name).Nodup

namespace Registry

instance : DecidableEq Registry := fun a b =>
  if h : a.models = b.models then
    isTrue (by cases a; cases b; simp_all)
  else
    isFalse fun e => h (e ▸ rfl)

/-- The registry without models. -/
def empty : Registry := ⟨[], by simp⟩

instance : Inhabited Registry := ⟨empty⟩

/-- Whether a name is taken. -/
def contains (r : Registry) (name : String) : Bool :=
  r.models.any fun m => m.name == name

/-- The model with a name. -/
def get? (r : Registry) (name : String) : Option Model :=
  r.models.find? fun m => m.name == name

/-- The names of the models, in the order in which they were found. -/
def names (r : Registry) : List String :=
  r.models.map Model.name

theorem contains_eq_true_iff (r : Registry) (name : String) :
    r.contains name = true ↔ name ∈ r.names := by
  simp [contains, names, List.any_eq_true]

/-- The registry with `m` at its end, unless its name is taken. -/
def add (r : Registry) (m : Model) : Registry :=
  if h : r.contains m.name then r
  else
    ⟨r.models ++ [m], by
      rw [contains_eq_true_iff] at h
      rw [List.map_append, List.nodup_append]
      refine ⟨r.nodup, by simp, fun a ha b hb e => ?_⟩
      rw [List.map_singleton, List.mem_singleton] at hb
      exact h (hb ▸ e ▸ ha)⟩

/-- Adds a model unless its name is taken, and says whether it was added. -/
def addIfAbsent (r : Registry) (m : Model) : Bool × Registry :=
  (!r.contains m.name, r.add m)

/-- Adds models one after the other, and says of each whether it was added. -/
def addAll (r : Registry) : List Model → List Bool × Registry
  | [] => ([], r)
  | m :: ms =>
    let (added, r) := r.addIfAbsent m
    let (answers, r) := r.addAll ms
    (added :: answers, r)

/-- The number of models. -/
def size (r : Registry) : Nat :=
  r.models.length

/-- The models in ascending order of their names. -/
def sorted (r : Registry) : List Model :=
  r.models.mergeSort fun a b => decide (a.name ≤ b.name)

/-! ## Adding a model -/

theorem add_of_contains {r : Registry} {m : Model} (h : r.contains m.name = true) :
    r.add m = r := by
  simp [add, h]

theorem models_add_of_not_contains {r : Registry} {m : Model} (h : r.contains m.name = false) :
    (r.add m).models = r.models ++ [m] := by
  simp [add, h]

theorem contains_add (r : Registry) (m : Model) (name : String) :
    (r.add m).contains name = true ↔ r.contains name = true ∨ name = m.name := by
  cases h : r.contains m.name with
  | true =>
    rw [add_of_contains h]
    refine ⟨Or.inl, fun hname => hname.elim id ?_⟩
    rintro rfl
    exact h
  | false =>
    simp only [contains_eq_true_iff, names, models_add_of_not_contains h, List.map_append,
      List.mem_append, List.map_cons, List.map_nil, List.mem_singleton]

theorem contains_eq_isSome_get? (r : Registry) (name : String) :
    r.contains name = (r.get? name).isSome := by
  rw [Bool.eq_iff_iff, contains, get?, List.any_eq_true, List.find?_isSome]

/-- **A name is given away once.** -/
theorem get?_add (r : Registry) (m : Model) (name : String) :
    (r.add m).get? name = (r.get? name).or (if m.name = name then some m else none) := by
  cases hname : r.contains m.name with
  | true =>
    rw [add_of_contains hname]
    split
    · next h =>
      rw [h, contains_eq_isSome_get?] at hname
      exact (Option.or_of_isSome hname).symm
    · rw [Option.or_none]
  | false =>
    rw [get?, models_add_of_not_contains hname, List.find?_append, ← get?]
    by_cases h : m.name = name <;> simp [h]

theorem get?_add_of_eq_some {r : Registry} {m existing : Model} {name : String}
    (h : r.get? name = some existing) : (r.add m).get? name = some existing := by
  rw [get?_add, h, Option.some_or]

theorem get?_add_self_of_eq_none {r : Registry} {m : Model} (h : r.get? m.name = none) :
    (r.add m).get? m.name = some m := by
  rw [get?_add, h, if_pos rfl, Option.none_or]

end Registry

end ApiOutline
