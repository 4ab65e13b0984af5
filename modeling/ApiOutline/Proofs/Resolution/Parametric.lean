import ApiOutline.Document.Codec
import ApiOutline.Proofs.Outline.History
import ApiOutline.Proofs.TypeExpr.Abstraction
import Mathlib.Data.List.Forall2

/-!
# The models of generic keys

All instances of a generic key share one model, that of whichever instance is met first.  So the model must not carry
the type arguments of this instance.  Where the type of a property comes from a reference, from the items of an array
or from a map, the arguments are replaced by the placeholder.  A property that declares its type itself keeps it as it
is.  It has no reference of its own then, nor have its items; but the items of its items may refer to anything, so a
type argument that stands there stays in the model.

* `Schema.NestsItems`: the properties that declare their type and have items in their items.
* `Document.mem_bareNames_propertyType`: the arguments that a property keeps.
* `Scope.mem_bareNames_walkModel`: the arguments that a model keeps.
* `Scope.nested_items_keep_arguments`: a model that is not free of its arguments.
-/

namespace ApiOutline

/-! ## Properties that declare their type -/

/-- The items of a property that declares its type do not refer to anything. -/
theorem PropertyShape.reference_eq_none_of_declared {owner : String} {property items : Schema}
    (h : PropertyShape.of owner property = .declared) (hitems : property.items = some items) :
    items.reference = none := by
  unfold PropertyShape.of at h
  split at h
  · split at h <;> exact absurd h (by simp)
  · split at h
    · exact absurd h (by simp)
    · exact absurd h (by simp)
    · simp only [hitems] at h
      cases hreference : items.reference with
      | none => rfl
      | some r => simp [hreference] at h

/-- The property of the definition `owner` declares its type itself, and its items have items of their own. -/
structure Schema.NestsItems (owner : String) (property : Schema) : Prop where
  declared : PropertyShape.of owner property = .declared
  nested : ∃ items inner, property.items = some items ∧ items.items = some inner

namespace Document

variable {d : Document} {owner key n : String} {property : Schema}

/-- Items that do not refer to anything mention models in the items inside only. -/
theorem exists_inner_of_mem_bareNames {items : Schema} (hreference : items.reference = none)
    (hn : n ∈ (d.itemsType items).bareNames) : ∃ inner, items.items = some inner := by
  obtain ⟨reference, type, format, description, inner, additional, properties, required⟩ := items
  obtain rfl : reference = none := hreference
  cases inner with
  | some inner => exact ⟨inner, rfl⟩
  | none =>
    rw [itemsType, withInnerItems, itemsHead] at hn
    split at hn
    · exact absurd hn (by simp)
    · exact absurd hn List.not_mem_nil

/-- A property that declares its type mentions models in the items of its items only. -/
theorem nestsItems_of_mem_bareNames (hshape : PropertyShape.of owner property = .declared)
    (hn : n ∈ (d.declaredType property).bareNames) : property.NestsItems owner := by
  unfold declaredType objectType? at hn
  split at hn
  · exact absurd hn List.not_mem_nil
  cases hbuiltin : Builtin.ofDeclared? property.type property.format with
  | none =>
    rw [hbuiltin] at hn
    exact absurd hn List.not_mem_nil
  | some b =>
    rw [hbuiltin, Option.map_some, Option.getD_some] at hn
    cases hitems : property.items with
    | none =>
      rw [hitems, withInnerItems] at hn
      exact absurd hn (by simp)
    | some items =>
      rw [hitems, withInnerItems] at hn
      obtain ⟨inner, hinner⟩ := exists_inner_of_mem_bareNames
        (PropertyShape.reference_eq_none_of_declared hshape hitems)
        (TypeExpr.mem_bareNames_withItems_ofBuiltin hn)
      exact ⟨hshape, items, inner, hitems, hinner⟩

/-- **The arguments that a property keeps.**  A name in a generic key, other than that of its model, stands in the
type of a property just if the property declares its type, and has it in the items of its items. -/
theorem mem_bareNames_propertyType {g : GenericKey} (hg : GenericKey.ofKey? key = some g)
    (hn : n ∈ keyNames key) (hhead : n ≠ headName key) :
    n ∈ (d.propertyType key (some g) property).bareNames ↔
      property.NestsItems key ∧ n ∈ (d.declaredType property).bareNames := by
  have habstract := GenericKey.notMem_bareNames_abstract hg hn hhead
  have hfree : ∀ {e : TypeExpr}, PropertyShape.of key property ≠ .declared → n ∉ e.bareNames →
      (n ∈ e.bareNames ↔ property.NestsItems key ∧ n ∈ (d.declaredType property).bareNames) :=
    fun hshape he => iff_of_false he fun h => hshape h.1.declared
  unfold propertyType
  cases hshape : PropertyShape.of key property with
  | self => exact hfree (by simp [hshape]) List.not_mem_nil
  | reference r => exact hfree (by simp [hshape]) (habstract _)
  | map additional => exact hfree (by simp [hshape]) List.not_mem_nil
  | arrayOf r => exact hfree (by simp [hshape]) (habstract _)
  | arrayOfAny => exact hfree (by simp [hshape]) List.not_mem_nil
  | declared => exact ⟨fun h => ⟨nestsItems_of_mem_bareNames hshape h, h⟩, And.right⟩

end Document

/-! ## Models -/

namespace Scope

variable {scope : Scope} {key head : String}

theorem fst_walkModel (scope : Scope) (key : String) (definition : Schema) (s : Progress) :
    (scope.walkModel scope.follow key definition s).1 = scope.model key definition :=
  Performs.value (fun n => performs_walkModel (scope.follows_follow n) key definition) s

/-- **The arguments that a model keeps.**  The model of a generic key, whatever has been walked before it, has one
property for each property of the definition.  A name in the key, other than that of the model, stands for a model
there just if it does so in the type that the property declares, the property has items in its items, and it is not
the one that holds the type argument. -/
theorem mem_bareNames_walkModel (hgeneric : isGenericKey key = true) (hhead : HeadedBy key head)
    (definition : Schema) (s : Progress) :
    List.Forall₂ (fun p q => ∀ n ∈ keyNames key, n ≠ head → (n ∈ q.type.bareNames ↔
        p.2.NestsItems key ∧ scope.wrappers.get? (className key) ≠ some p.1 ∧
          n ∈ (scope.document.declaredType p.2).bareNames))
      definition.properties (scope.walkModel scope.follow key definition s).1.properties := by
  obtain ⟨g, hg⟩ := Option.isSome_iff_exists.mp ((isSome_ofKey? key).trans hgeneric)
  rw [fst_walkModel, model, List.forall₂_map_right_iff, List.forall₂_same]
  intro p _ n hn hne
  rw [← headName_eq_of_headedBy hhead] at hne
  rw [Scope.property]
  by_cases hpayload : scope.wrappers.get? (className key) = some p.1
  · rw [if_pos hpayload]
    exact iff_of_false List.not_mem_nil fun h => h.2.1 hpayload
  · rw [if_neg hpayload, hg, Document.mem_bareNames_propertyType hg hn hne]
    simp only [ne_eq, hpayload, not_false_eq_true, true_and]

/-! ## A model with its argument in it -/

/-- A box with rows of users. -/
def boxOfUsers : Schema :=
  let user : Schema := { Schema.blank with reference := some "#/definitions/User" }
  let row : Schema := { Schema.blank with type := some "array", items := some user }
  { Schema.blank with properties := [("rows", { Schema.blank with type := some "array", items := some row })] }

/-- A document with a box of users. -/
def withBox : Scope where
  document :=
    { Document.blank with definitions := ⟨[("Box«User»", boxOfUsers), ("User", .blank)], by decide⟩ }
  wrappers := .empty

theorem headedBy_box : HeadedBy "Box«User»" "Box" :=
  ⟨"Box".toList, '«', "User»".toList, by decide, by decide, by decide, by decide, by decide⟩

/-- In a box of users the users in the rows are there because the rows nest items. -/
theorem mem_bareNames_box : isGenericKey "Box«User»" = true ∧ HeadedBy "Box«User»" "Box" ∧
    List.Forall₂ (fun p q => ∀ n ∈ keyNames "Box«User»", n ≠ "Box" → (n ∈ q.type.bareNames ↔
        p.2.NestsItems "Box«User»" ∧ withBox.wrappers.get? (className "Box«User»") ≠ some p.1 ∧
          n ∈ (withBox.document.declaredType p.2).bareNames))
      boxOfUsers.properties (withBox.walkModel withBox.follow "Box«User»" boxOfUsers .start).1.properties :=
  ⟨by decide, headedBy_box, mem_bareNames_walkModel (by decide) headedBy_box boxOfUsers .start⟩

/-- **The items of items keep their arguments.**  The model of `Box«User»` is the model of every box, but its rows
are rows of users. -/
theorem nested_items_keep_arguments : ¬ ∀ (scope : Scope) (s : Progress) (key head : String) (definition : Schema),
    isGenericKey key = true → HeadedBy key head →
    scope.document.definitions.get? key = some definition →
    ∀ q ∈ (scope.walkModel scope.follow key definition s).1.properties,
      ∀ n ∈ q.type.bareNames, n ∈ keyNames key → n = head := by
  intro h
  have hrows := h withBox .start "Box«User»" "Box" boxOfUsers (by decide) headedBy_box (by rfl)
  rw [fst_walkModel] at hrows
  exact absurd (hrows _ List.mem_cons_self "User" (by decide +kernel) (by decide +kernel)) (by decide)

end Scope

end ApiOutline
