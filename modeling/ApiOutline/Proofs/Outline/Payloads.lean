import ApiOutline.Proofs.Outline.Arrangement
import ApiOutline.Proofs.Resolution.Payloads

/-!
# Outlines with different wrappers

Two settings that differ in their wrapper maps give the same outline but for the types of payloads.  The endpoints and
what follows from them do not depend on the map at all.  The models are registered side by side, and as they have the
same names, sorting them keeps them side by side.  The diagnostics are the same but for losses of names, which compare
the properties of models.

In each of the outlines a model that is built from a definition has the placeholder in the place that the map gives for
its class.  A model of query parameters is not built from a definition, so the map has no say in it.

* `forall₂_mergeSort`: sorting side by side.
* `Scope.Defines`, `Model.HoldsPlaceholder`: models of definitions and their payloads.
* `Outline.AgreesApart`, `Outline.PlacesPayloads`: what is said of two outlines, and of each.
* `Outline.wrappers_touch_payloads`: the main statement.
-/

namespace ApiOutline

/-! ## Sorting side by side -/

/-- Members that are related and have the same key stay side by side when they are sorted. -/
theorem forall₂_mergeSort {α : Type} {R : α → α → Prop} {key : α → String} (hkey : ∀ a b, R a b → key a = key b)
    {l l' : List α} (h : List.Forall₂ R l l') :
    List.Forall₂ R (l.mergeSort fun a b => decide (key a ≤ key b)) (l'.mergeSort fun a b => decide (key a ≤ key b)) := by
  obtain ⟨hlength, hzip⟩ := List.forall₂_iff_zip.mp h
  -- both are read off the sorted pairs
  have hfst := List.map_mergeSort (l := l.zip l') (f := Prod.fst)
    (r := fun p q => decide (key p.1 ≤ key q.1)) (s := fun a b => decide (key a ≤ key b)) fun _ _ _ _ => rfl
  have hsnd := List.map_mergeSort (l := l.zip l') (f := Prod.snd)
    (r := fun p q => decide (key p.1 ≤ key q.1)) (s := fun a b => decide (key a ≤ key b)) fun p hp q hq => by
      rw [hkey _ _ (hzip hp), hkey _ _ (hzip hq)]
  rw [List.map_fst_zip hlength.le] at hfst
  rw [List.map_snd_zip hlength.ge] at hsnd
  rw [← hfst, ← hsnd, List.forall₂_map_left_iff, List.forall₂_map_right_iff]
  exact List.forall₂_same.mpr fun p hp => hzip (List.mem_mergeSort.mp hp)

/-! ## Payloads -/

/-- The model is built from a definition of the document. -/
def Scope.Defines (scope : Scope) (m : Model) : Prop :=
  ∃ key definition, scope.document.definitions.get? key = some definition ∧ m = scope.model key definition

/-- The property that a wrapper map gives as the payload of the class, if the model has it, is a placeholder. -/
def Model.HoldsPlaceholder (wrappers : NameMap String) (m : Model) : Prop :=
  ∀ p ∈ m.properties, wrappers.get? m.className = some p.name → p.type = .placeholder

/-- **A model of a definition holds the placeholder.** -/
theorem Scope.Defines.holdsPlaceholder {scope : Scope} {m : Model} (h : scope.Defines m) :
    m.HoldsPlaceholder scope.wrappers := by
  obtain ⟨key, definition, -, rfl⟩ := h
  intro p hp hpayload
  obtain ⟨q, -, rfl⟩ := List.mem_map.mp hp
  exact type_property_of_payload hpayload definition q.2

namespace Outline

variable (c : OutlineSettings) (d : Document)

/-- The models of an outline have their payloads in place: each is one of query parameters or built from a definition,
and those that are built from definitions hold the placeholder where the wrapper map says. -/
structure PlacesPayloads (o : Outline) : Prop where
  origin : ∀ m ∈ o.models, m ∈ paramsModels c d ∨ Scope.Defines ⟨d, c.wrappers⟩ m
  placed : ∀ m ∈ o.models, Scope.Defines ⟨d, c.wrappers⟩ m → m.HoldsPlaceholder c.wrappers

theorem placesPayloads : PlacesPayloads c d (ofDocument c d) where
  origin := fun _ hm => (mem_models hm).imp_right fun ⟨key, definition, _, hget, hmodel, _⟩ =>
    ⟨key, definition, hget, hmodel⟩
  placed := fun _ _ h => h.holdsPlaceholder

/-- Two outlines are the same apart from the types of payloads, which two wrapper maps give, and from losses of
names. -/
structure AgreesApart (w w' : NameMap String) (o o' : Outline) : Prop where
  documentHash : o.documentHash = o'.documentHash
  baseName : o.baseName = o'.baseName
  groups : o.groups = o'.groups
  endpoints : o.endpoints = o'.endpoints
  models : List.Forall₂ (Model.Agrees w w') o.models o'.models
  diagnostics : (o.diagnostics.filter fun x => !x.isCollision) = o'.diagnostics.filter fun x => !x.isCollision

/-- **Wrappers touch payloads and nothing else.**  Outlines of one document under settings that differ in their wrapper
maps only have the same fingerprint, service name, groups and endpoints, and these are what the walks through the
requests build; they have the same diagnostics but for losses of names, and the same models with the same properties,
where two properties differ in their types at most, and only if one of the maps gives them as the payload of the class.
In each outline the models that are built from definitions hold the placeholder where the map says. -/
theorem wrappers_touch_payloads (w : NameMap String) :
    AgreesApart c.wrappers w (ofDocument c d) (ofDocument { c with wrappers := w } d) ∧
      (buildAll c d (opening d)).1 = (buildAll { c with wrappers := w } d (opening d)).1 ∧
      PlacesPayloads c d (ofDocument c d) ∧
      PlacesPayloads { c with wrappers := w } d (ofDocument { c with wrappers := w } d) := by
  have hrun : (progress c d).Agrees c.wrappers w (progress { c with wrappers := w } d) :=
    Scope.agrees_run d (.refl (opening d)) _
  have hmodels : List.Forall₂ (Model.Agrees c.wrappers w) (ofDocument c d).models
      (ofDocument { c with wrappers := w } d).models :=
    forall₂_mergeSort (fun _ _ h => h.name) hrun.models
  refine ⟨⟨rfl, rfl, rfl, rfl, hmodels, hrun.diagnostics⟩, ?_, placesPayloads c d, placesPayloads _ d⟩
  rw [fst_buildAll, fst_buildAll]
  rfl

end Outline

end ApiOutline
