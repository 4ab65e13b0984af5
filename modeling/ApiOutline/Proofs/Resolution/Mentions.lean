import ApiOutline.Proofs.Resolution.Walk
import ApiOutline.Proofs.TypeExpr.Names

/-!
# How the types of schemas are put together

The type of a schema is put together in few ways: it starts from a builtin or from the type of a reference, types are
given their items, arrays are made of them, and type arguments are abstracted.  The references from which it starts are
those that the schema follows.  What holds of builtins and of the types of references, and is kept by these steps, holds
of the types of all schemas.

So it is with the models that a type mentions: it mentions models in the references that are followed and nowhere else,
since items bring in the models of the items, and abstraction takes models away.

* `Document.Built`: the types that are put together from given references.
* `Document.built_items`, `Document.built_schema`, `Document.built_property`: schemas and properties.
* `Scope.built_model`: the properties of a model.
* `Document.DrawnFrom`, `Document.Built.drawnFrom`: types whose models come from given references.
-/

namespace ApiOutline

namespace Document

variable {d : Document} {rs rs' : List String} {e : TypeExpr}

/-- The types that are put together from builtins and from the types of references in a list. -/
inductive Built (d : Document) (rs : List String) : TypeExpr → Prop where
  | builtin (b : Builtin) : Built d rs (.ofBuiltin b)
  | reference {r : String} (hr : r ∈ rs) : Built d rs (d.referenceType r)
  | withItems {e items : TypeExpr} (he : Built d rs e) (hitems : Built d rs items) :
    Built d rs (e.withItems items)
  | array {item : TypeExpr} (h : Built d rs item) : Built d rs (.array item)
  | abstract {e : TypeExpr} (g : GenericKey) (h : Built d rs e) : Built d rs (g.abstract e)

namespace Built

theorem any : d.Built rs .any := .builtin .any

theorem void : d.Built rs .void := .builtin .void

theorem placeholder : d.Built rs .placeholder := .builtin .t

/-- More references do no harm. -/
theorem mono (h : d.Built rs e) (hsub : rs ⊆ rs') : d.Built rs' e := by
  induction h with
  | builtin b => exact .builtin b
  | reference hr => exact .reference (hsub hr)
  | withItems _ _ ihe ihitems => exact .withItems ihe ihitems
  | array _ ih => exact .array ih
  | abstract g _ ih => exact .abstract g ih

theorem abstractIn (h : d.Built rs e) (generic : Option GenericKey) :
    d.Built rs (ApiOutline.abstractIn generic e) := by
  cases generic with
  | none => exact h
  | some g => exact .abstract g h

end Built

/-! ## Schemas -/

theorem built_itemsHead (d : Document) (type format reference : Option String) :
    d.Built (if (Builtin.ofDeclared? type format).isNone then reference.toList else [])
      (d.itemsHead type format reference) := by
  unfold itemsHead
  cases Builtin.ofDeclared? type format with
  | some b => exact .builtin b
  | none =>
    cases reference with
    | some r => exact .reference (by simp)
    | none => exact .any

mutual

/-- **The types of items.** -/
theorem built_items (d : Document) : ∀ schema : Schema, d.Built (itemsReferences schema) (d.itemsType schema)
  | ⟨reference, type, format, _, items, _, _, _⟩ => by
    rw [itemsType, itemsReferences]
    exact built_inner d (d.built_itemsHead type format reference) items

theorem built_inner (d : Document) {rs : List String} {e : TypeExpr} (he : d.Built rs e) :
    ∀ items : Option Schema, d.Built (rs ++ innerReferences items) (d.withInnerItems e items)
  | none => by
    rw [withInnerItems, innerReferences, List.append_nil]
    exact he
  | some inner => by
    rw [withInnerItems, innerReferences]
    exact .withItems (he.mono (List.subset_append_left _ _))
      ((built_items d inner).mono (List.subset_append_right _ _))

end

theorem built_object {schema : Schema} (h : d.objectType? schema = some e) :
    d.Built (objectReferences schema) e := by
  unfold objectType? at h
  unfold objectReferences
  cases htype : schema.type with
  | none =>
    rw [htype] at h
    exact absurd h (by simp)
  | some type =>
    rw [htype] at h
    obtain ⟨b, hb, rfl⟩ := Option.map_eq_some_iff.mp h
    rw [hb]
    have hb : d.Built [] (.ofBuiltin b) := .builtin b
    exact d.built_inner hb schema.items

/-- **The types of schemas.** -/
theorem built_schema {schema : Schema} (h : d.schemaType? schema = some e) :
    d.Built (schemaReferences schema) e := by
  unfold schemaType? at h
  unfold schemaReferences
  cases hreference : schema.reference with
  | some r =>
    rw [hreference, Option.some_inj] at h
    exact h ▸ .reference List.mem_cons_self
  | none =>
    rw [hreference] at h
    exact built_object h

/-- A schema that may be missing. -/
theorem built_schema? {schema : Option Schema} (h : schema.bind d.schemaType? = some e) :
    d.Built (schema.toList.flatMap schemaReferences) e := by
  obtain ⟨schema, rfl, hschema⟩ := Option.bind_eq_some_iff.mp h
  rw [Option.toList_some, List.flatMap_singleton]
  exact built_schema hschema

theorem built_declared (d : Document) (property : Schema) :
    d.Built (objectReferences property) (d.declaredType property) := by
  unfold declaredType
  cases h : d.objectType? property with
  | none => exact .any
  | some e => exact built_object h

/-! ## Properties -/

/-- **The types of properties.** -/
theorem built_property (d : Document) (owner : String) (generic : Option GenericKey)
    (property : Schema) : d.Built (propertyReferences owner generic.isSome property)
      (d.propertyType owner generic property) := by
  unfold propertyType propertyReferences
  cases PropertyShape.of owner property with
  | self => exact .placeholder
  | reference r => exact (Built.reference List.mem_cons_self).abstractIn generic
  | map additional =>
    dsimp only
    cases generic with
    | none => exact (d.built_declared property).mono (List.subset_append_right _ _)
    | some g => exact .placeholder
  | arrayOf r =>
    have hitem : d.Built [r] (.array (d.referenceType r)) := .array (.reference List.mem_cons_self)
    exact hitem.abstractIn generic
  | arrayOfAny =>
    dsimp only
    cases generic with
    | none => exact d.built_declared property
    | some g => exact .placeholder
  | declared => exact d.built_declared property

end Document

/-- **The types of the properties of a model.**  They are put together from the references of its definition. -/
theorem Scope.built_model (scope : Scope) (key : String) (definition : Schema) {p : Property}
    (hp : p ∈ (scope.model key definition).properties) :
    scope.document.Built (memberReferences key definition) p.type := by
  obtain ⟨⟨name, property⟩, hmem, rfl⟩ := List.mem_map.mp hp
  unfold Scope.property
  dsimp only
  split
  · exact .placeholder
  · have hproperty := scope.document.built_property key (GenericKey.ofKey? key) property
    rw [isSome_ofKey?] at hproperty
    exact hproperty.mono fun _ hr => List.mem_flatMap.mpr ⟨_, hmem, hr⟩

/-! ## The models in a type -/

namespace Document

variable {d : Document} {rs : List String} {e : TypeExpr}

/-- Every model in the type is one of the type of a reference in the list. -/
def DrawnFrom (d : Document) (rs : List String) (e : TypeExpr) : Prop :=
  ∀ n ∈ e.modelNames, ∃ r ∈ rs, n ∈ (d.referenceType r).modelNames

/-- **A type mentions the models of the references it is put together from.** -/
theorem Built.drawnFrom (h : d.Built rs e) : d.DrawnFrom rs e := by
  induction h with
  | builtin b =>
    intro n hn
    rw [TypeExpr.modelNames_ofBuiltin] at hn
    exact absurd hn List.not_mem_nil
  | reference hr => exact fun n hn => ⟨_, hr, hn⟩
  | withItems _ _ ihe ihitems =>
    exact fun n hn => (TypeExpr.mem_modelNames_withItems hn).elim (ihe n) (ihitems n)
  | array _ ih => exact ih
  | abstract g _ ih => exact fun n hn => ih n (TypeExpr.mem_modelNames_abstractArgs hn)

end Document

end ApiOutline
