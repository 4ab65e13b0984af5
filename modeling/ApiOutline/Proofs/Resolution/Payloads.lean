import ApiOutline.Proofs.Resolution.Losses
import Mathlib.Data.List.Forall2

/-!
# Runs with different wrappers

A wrapper map says which property of a generic class holds its type argument, the payload.  That property gets the
placeholder for its type, but only after its own type has been found, so nothing that happens on the way depends on the
map.  Two runs with different maps go through the same tasks side by side.  Their states agree on what is in progress
and what is finished; they have the same models in the same order, up to the types of payloads; and they have recorded
the same.

There is one thing that sees the types of a registered model: the offer of query parameters under its name.  Whether
it is a loss may depend on the map.  So losses of names are left out of what the states agree on, and as nothing is
registered in either case, the runs stay side by side.

* `Property.Agrees`, `Model.Agrees`, `Progress.Agrees`: what two runs have in common.
* `Scope.agrees_advance`: a task keeps it.
* `Scope.agrees_run`: the main statement.
-/

namespace ApiOutline

section

variable (w w' : NameMap String)

/-- Two properties of a class agree: they are the same, but if one of two wrapper maps gives the property as the
payload of the class, they may have different types. -/
structure Property.Agrees (className : String) (p p' : Property) : Prop where
  name : p.name = p'.name
  description : p.description = p'.description
  required : p.required = p'.required
  type : p.type ≠ p'.type → w.get? className = some p.name ∨ w'.get? className = some p.name

/-- Two models agree: they are the same but for the types of payloads. -/
structure Model.Agrees (m m' : Model) : Prop where
  name : m.name = m'.name
  className : m.className = m'.className
  description : m.description = m'.description
  properties : List.Forall₂ (Property.Agrees w w' m.className) m.properties m'.properties

/-- Two states agree: what is in progress and what is finished is the same, and so are the models but for the types of
payloads, and the diagnostics but for losses of names. -/
structure Progress.Agrees (s s' : Progress) : Prop where
  inProgress : s.inProgress = s'.inProgress
  resolved : s.resolved = s'.resolved
  models : List.Forall₂ (Model.Agrees w w') s.registry.models s'.registry.models
  diagnostics : (s.diagnostics.filter fun x => !x.isCollision) = s'.diagnostics.filter fun x => !x.isCollision

end

variable {w w' : NameMap String}

/-! ## Models -/

theorem Property.Agrees.refl (className : String) (p : Property) : p.Agrees w w' className p :=
  ⟨rfl, rfl, rfl, fun h => absurd rfl h⟩

theorem Model.Agrees.refl (m : Model) : m.Agrees w w' m where
  name := rfl
  className := rfl
  description := rfl
  properties := List.forall₂_same.mpr fun p _ => .refl m.className p

/-- The payload has the placeholder for its type. -/
theorem Scope.type_property_of_payload {scope : Scope} {key name : String}
    (h : scope.wrappers.get? (className key) = some name) (definition property : Schema) :
    (scope.property key definition name property).type = .placeholder :=
  if_pos h

/-- Any other property has its own type. -/
theorem Scope.type_property_of_not_payload {scope : Scope} {key name : String}
    (h : scope.wrappers.get? (className key) ≠ some name) (definition property : Schema) :
    (scope.property key definition name property).type =
      scope.document.propertyType key (GenericKey.ofKey? key) property :=
  if_neg h

/-- **The models of a definition agree.**  A property has the same type in both, unless one of the maps overrides it. -/
theorem Scope.agrees_model (d : Document) (key : String) (definition : Schema) :
    (Scope.model ⟨d, w⟩ key definition).Agrees w w' (Scope.model ⟨d, w'⟩ key definition) where
  name := rfl
  className := rfl
  description := rfl
  properties := by
    simp only [Scope.model, List.forall₂_map_left_iff, List.forall₂_map_right_iff]
    refine List.forall₂_same.mpr fun p _ => ⟨rfl, rfl, rfl, fun htype => ?_⟩
    by_contra hnot
    obtain ⟨hw, hw'⟩ := not_or.mp hnot
    exact htype ((@type_property_of_not_payload ⟨d, w⟩ _ _ hw _ _).trans
      (@type_property_of_not_payload ⟨d, w'⟩ _ _ hw' _ _).symm)

/-! ## Registries -/

section

variable {r r' : Registry} {m m' : Model}

theorem Registry.contains_congr (h : List.Forall₂ (Model.Agrees w w') r.models r'.models) (name : String) :
    r.contains name = r'.contains name := by
  have hnames : r.models.map Model.name = r'.models.map Model.name := by
    rw [← List.forall₂_eq_eq_eq, List.forall₂_map_left_iff, List.forall₂_map_right_iff]
    exact h.imp fun _ _ h => h.name
  rw [Bool.eq_iff_iff, contains_eq_true_iff, contains_eq_true_iff, names, names, hnames]

/-- Adding models that agree. -/
theorem Registry.agrees_add (h : List.Forall₂ (Model.Agrees w w') r.models r'.models) (hm : m.Agrees w w' m') :
    List.Forall₂ (Model.Agrees w w') (r.add m).models (r'.add m').models := by
  have hname := contains_congr h m.name
  cases hr : r.contains m.name with
  | true =>
    rw [hr, hm.name] at hname
    rwa [add_of_contains hr, add_of_contains hname.symm]
  | false =>
    rw [hr, hm.name] at hname
    rw [models_add_of_not_contains hr, models_add_of_not_contains hname.symm]
    exact List.rel_append h (.cons hm .nil)

end

/-! ## One task -/

namespace Progress.Agrees

variable {s s' : Progress}

theorem refl (s : Progress) : s.Agrees w w' s :=
  ⟨rfl, rfl, List.forall₂_same.mpr fun m _ => .refl m, rfl⟩

theorem met (h : s.Agrees w w' s') (key : String) : s.met key = s'.met key := by
  rw [Progress.met, Progress.met, h.inProgress, h.resolved]

theorem subject (h : s.Agrees w w' s') (reference : String) : s.subject reference = s'.subject reference := by
  rw [Progress.subject, Progress.subject, h.inProgress]

theorem enter (h : s.Agrees w w' s') (key : String) : (s.enter key).Agrees w w' (s'.enter key) :=
  ⟨congrArg (· ++ [key]) h.inProgress, h.resolved, h.models, h.diagnostics⟩

theorem note (h : s.Agrees w w' s') (x : Diagnostic) : (s.note x).Agrees w w' (s'.note x) where
  inProgress := h.inProgress
  resolved := h.resolved
  models := h.models
  diagnostics := by
    rw [Progress.note, Progress.note, List.filter_append, List.filter_append, h.diagnostics]

end Progress.Agrees

namespace Scope

variable (d : Document) {s s' : Progress}

/-- A task wants to register models that agree, or none. -/
theorem agrees_wants? (t : Task) :
    Option.Rel (Model.Agrees w w') (wants? ⟨d, w⟩ t) (wants? ⟨d, w'⟩ t) := by
  cases t with
  | follow r => exact .none
  | finish key =>
    simp only [wants?]
    split
    · exact .none
    · cases d.definitions.get? key with
      | none => exact .none
      | some definition => exact .some (agrees_model d key definition)
  | note x => exact .none
  | offer path m => exact .some (.refl m)

theorem agrees_registry_advance (h : s.Agrees w w' s') (t : Task) :
    List.Forall₂ (Model.Agrees w w') (advance ⟨d, w⟩ s t).1.registry.models
      (advance ⟨d, w'⟩ s' t).1.registry.models := by
  have hwants : Option.Rel (Model.Agrees w w') (wants? ⟨d, w⟩ t) (wants? ⟨d, w'⟩ t) := agrees_wants? d t
  rw [registry_advance, registry_advance]
  generalize wants? ⟨d, w⟩ t = wanted at hwants ⊢
  generalize wants? ⟨d, w'⟩ t = wanted' at hwants ⊢
  cases hwants with
  | none => exact h.models
  | some hm => exact Registry.agrees_add h.models hm

/-- **A task keeps two states in agreement**, and brings the same tasks in both. -/
theorem agrees_advance (h : s.Agrees w w' s') (t : Task) :
    (advance ⟨d, w⟩ s t).1.Agrees w w' (advance ⟨d, w'⟩ s' t).1 ∧
      (advance ⟨d, w⟩ s t).2 = (advance ⟨d, w'⟩ s' t).2 := by
  have hmodels := agrees_registry_advance d h t
  cases t with
  | follow r =>
    simp only [advance]
    split
    · rw [h.subject]
      exact ⟨h.note _, rfl⟩
    · rw [h.met]
      split
      · exact ⟨h, rfl⟩
      · exact ⟨h.enter _, rfl⟩
  | finish key =>
    refine ⟨⟨?_, ?_, hmodels, ?_⟩, rfl⟩
    · simp only [advance, inProgress_finish, h.inProgress]
    · simp only [advance, resolved_finish, h.resolved]
    · simp only [advance, diagnostics_finish, h.diagnostics]
  | note x => exact ⟨h.note x, rfl⟩
  | offer path m =>
    refine ⟨⟨?_, ?_, hmodels, ?_⟩, rfl⟩
    · simp only [advance, inProgress_offer, h.inProgress]
    · simp only [advance, resolved_offer, h.resolved]
    · simp only [advance, filter_diagnostics_offer, h.diagnostics]

/-! ## All tasks -/

/-- **Runs with different wrappers go side by side.** -/
theorem agrees_run (h : s.Agrees w w' s') (ts : List Task) :
    (run ⟨d, w⟩ s ts).Agrees w w' (run ⟨d, w'⟩ s' ts) := by
  induction s, ts using Scope.run.induct ⟨d, w⟩ generalizing s' with
  | case1 s => rwa [run_nil, run_nil]
  | case2 s t ts ih =>
    obtain ⟨hstate, htasks⟩ := agrees_advance d h t
    rw [run_cons, run_cons, ← htasks]
    exact ih hstate

end Scope

end ApiOutline
