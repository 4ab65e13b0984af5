import ApiOutline.Proofs.Outline.Types
import ApiOutline.Proofs.TypeExpr.RegularKeys

/-!
# Definitions that become models

A definition becomes a model unless its name is one of a builtin, and a reference to it gets the type that its key
spells.  The name of the model and the name in the type are found in two ways, which agree exactly on regular keys.  So
among the definitions with regular keys those become models whose references are models.

* `Outline.ofName?_of_mem_models`: no model has the name of a builtin.
* `Outline.registered_as_referenced`: the main statement.
-/

namespace ApiOutline

open TypeExpr

theorem Builtin.isName_eq_false_iff {n : String} : isName n = false ↔ ofName? n = none := by
  rw [isName, Option.isSome_eq_false_iff, Option.isNone_iff_eq_none]

namespace Outline

variable {c : OutlineSettings} {d : Document}

/-- No model of an outline has the name of a builtin. -/
theorem ofName?_of_mem_models {m : Model} (hm : m ∈ (ofDocument c d).models) : Builtin.ofName? m.name = none := by
  rcases mem_models hm with hparams | ⟨key, definition, -, -, rfl, hbuiltin⟩
  · obtain ⟨r, -, hr⟩ := List.mem_filterMap.mp hparams
    rw [(Operation.paramsModel?_eq_some hr).1]
    exact Operation.ofName?_paramsName _
  · exact Builtin.isName_eq_false_iff.mp hbuiltin

theorem referenceType_of_reachable {reference : String}
    (h : d.Reachable (references c d) (refKey reference)) :
    d.referenceType reference = parse none (refKey reference) := by
  obtain ⟨definition, hdefinition⟩ := Option.isSome_iff_exists.mp h.isSome_definition
  rw [Document.referenceType, show d.definition? reference = some definition from hdefinition]

/-- A definition with a regular key becomes a model if its references are models, and only then. -/
theorem exists_model_iff_isModel {reference : String} (h : d.Reachable (references c d) (refKey reference))
    (hregular : IsRegular (refKey reference)) :
    (∃ m ∈ (ofDocument c d).models, m.name = modelName (refKey reference)) ↔
      (d.referenceType reference).IsModel (modelName (refKey reference)) := by
  have halike : NamedAlike (refKey reference) := hregular.namedAlike
  rw [referenceType_of_reachable h]
  constructor
  · rintro ⟨m, hm, hname⟩
    exact halike.model (hname ▸ ofName?_of_mem_models hm)
  · intro hmodel
    have hforeign : Builtin.ofName? (modelName (refKey reference)) = none := by
      cases hb : Builtin.ofName? (modelName (refKey reference)) with
      | none => rfl
      | some b => exact absurd hmodel (halike.builtin b hb).not_isModel
    exact exists_model_iff.mpr (Or.inl ⟨_, h, rfl, Builtin.isName_eq_false_iff.mpr hforeign⟩)

/-- **Definitions are registered as they are referenced.**  The name under which a definition is registered and the one
in the type of its references agree exactly if its key is regular.  So a definition with a regular key that the requests
lead to becomes a model if and only if its references are this model. -/
theorem registered_as_referenced :
    (∀ key, NamedAlike key ↔ IsRegular key) ∧
      ∀ c d reference, d.Reachable (references c d) (refKey reference) → IsRegular (refKey reference) →
        ((∃ m ∈ (ofDocument c d).models, m.name = modelName (refKey reference)) ↔
          (d.referenceType reference).IsModel (modelName (refKey reference))) :=
  ⟨fun _ => namedAlike_iff_isRegular, fun _ _ _ => exists_model_iff_isModel⟩

/-- Pages of orders have a regular key, and references to them are pages, so they become a model. -/
theorem registered_as_referenced_pagesOfOrders :
    (pagesOfOrders.Reachable (references .default pagesOfOrders) "Page«Order»" ∧ IsRegular "Page«Order»") ∧
      ∃ m ∈ (ofDocument .default pagesOfOrders).models, m.name = "Page" := by
  have hkey : refKey (definitionsHead ++ "Page«Order»") = "Page«Order»" := refKey_definitionsHead_append _
  have hreach : pagesOfOrders.Reachable (references .default pagesOfOrders)
      (refKey (definitionsHead ++ "Page«Order»")) :=
    .root List.mem_cons_self (by decide +kernel)
  have hregular : IsRegular "Page«Order»" := by
    have hhead : HeadedBy "Page«Order»" "Page" :=
      ⟨"Page".toList, '«', "Order»".toList, by decide, by decide, by decide, by decide, by decide⟩
    exact .generic (by decide) hhead
  have hmodel : (pagesOfOrders.referenceType (definitionsHead ++ "Page«Order»")).IsModel "Page" := by
    have htype : pagesOfOrders.referenceType (definitionsHead ++ "Page«Order»") =
        .generic "Page" [.model "Order"] := by decide +kernel
    rw [htype]
    exact .generic _
  have hname : modelName "Page«Order»" = "Page" := by decide
  have hiff := registered_as_referenced.2 .default pagesOfOrders (definitionsHead ++ "Page«Order»") hreach
  rw [hkey, hname] at hiff
  rw [hkey] at hreach
  exact ⟨⟨hreach, hregular⟩, (hiff hregular).mpr hmodel⟩

end Outline

end ApiOutline
