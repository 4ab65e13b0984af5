import ApiOutline.Document.Codec
import ApiOutline.Proofs.Outline.History

/-!
# What a schema means as a property and by itself

The type of a property and the type of a body or a response are found by two walks that look at the same schema in
another order.  For a property a declared type wins over a reference, and a map over an array.  A body takes its
reference first, then its declared type.  Inside a definition whose key is not generic both come to the same type, as
long as the schema says its type in one way.

There are three ways to say it in two: a type beside a reference; a reference to the definition that the property
belongs to, which stands for a type argument there; and items that are a reference, since a property with such items is
an array of what they refer to, whatever type it or they declare.

* `Schema.IsUniform`: the schemas that say their type in one way.
* `Document.propertyType_eq_schemaType`: such a schema has one type.
* `walkProperty_eq_walkSchema`: the main statement.
-/

namespace ApiOutline

/-- The schema says its type in one way, be it a property of the definition `owner` or not: it has not both a reference
and a type, its reference does not lead back to `owner`, and if its items have a reference, they have nothing else to
say their type, and the schema declares an array. -/
structure Schema.IsUniform (owner : String) (s : Schema) : Prop where
  not_both : ¬ (s.reference.isSome = true ∧ s.type.isSome = true)
  foreign : ∀ r, s.reference = some r → refKey r ≠ owner
  items : ∀ items, s.items = some items → items.reference.isSome = true →
    items.type = none ∧ items.format = none ∧ items.items = none ∧ s.type.isSome = true ∧
      Builtin.ofDeclared? s.type s.format = some .array

namespace Document

variable {d : Document} {owner r : String} {s items : Schema}

/-- Items that say their type by a reference alone have the type of the reference. -/
theorem itemsType_of_reference (hreference : items.reference = some r) (htype : items.type = none)
    (hformat : items.format = none) (hitems : items.items = none) : d.itemsType items = d.referenceType r := by
  obtain ⟨reference, type, format, description, inner, additional, properties, required⟩ := items
  simp only at hreference htype hformat hitems
  subst hreference htype hformat hitems
  rfl

/-- A declared array has the type of its items. -/
theorem objectType?_of_array (htype : s.type.isSome = true) (harray : Builtin.ofDeclared? s.type s.format = some .array)
    (hitems : s.items = some items) : d.objectType? s = some (.array (d.itemsType items)) := by
  obtain ⟨type, htype⟩ := Option.isSome_iff_exists.mp htype
  rw [objectType?, harray, hitems, htype]
  rfl

/-- **A schema that says its type in one way has one type**, as a property of a definition whose key is not generic and
by itself. -/
theorem propertyType_eq_schemaType (h : s.IsUniform owner) :
    d.propertyType owner none s = (d.schemaType? s).getD .any := by
  cases hreference : s.reference with
  | some r =>
    have htype : s.type = none := by
      have hnot := h.not_both
      simpa [hreference] using hnot
    simp [propertyType, PropertyShape.of, schemaType?, abstractIn, htype, hreference, h.foreign r hreference]
  | none =>
    have hdeclared : d.declaredType s = (d.schemaType? s).getD .any := by rw [declaredType, schemaType?, hreference]
    have hshapeIn := PropertyShape.isIn_of owner s
    rw [← hdeclared, propertyType]
    cases hshape : PropertyShape.of owner s with
    | self =>
      rw [hshape] at hshapeIn
      obtain ⟨r, hr, -⟩ := hshapeIn
      rw [hreference] at hr
      exact absurd hr (by simp)
    | reference r =>
      rw [hshape] at hshapeIn
      exact absurd (hreference.symm.trans hshapeIn) (by simp)
    | arrayOf r =>
      rw [hshape] at hshapeIn
      obtain ⟨items, hitems, hr⟩ := hshapeIn
      obtain ⟨htype, hformat, hinner, hdeclares, harray⟩ := h.items items hitems (by rw [hr]; rfl)
      rw [declaredType, objectType?_of_array hdeclares harray hitems, itemsType_of_reference hr htype hformat hinner]
      rfl
    | _ => rfl

end Document

section

variable {owner : String} {schema : Schema}

/-- **A schema means the same as a property and as a body or a response.**  If the key of the definition `owner` is not
generic and the schema says its type in one way, the walk through it as a property of `owner` and the walk through it by
itself give the same type, from any two states; where the second one gives none, the first one gives the type of every
value. -/
theorem walkProperty_eq_walkSchema (scope : Scope) (hkey : isGenericKey owner = false) (h : schema.IsUniform owner)
    (s t : Progress) :
    (walkProperty scope.follow owner (GenericKey.ofKey? owner) schema s).1 =
      ((walkSchema scope.follow schema t).1).getD .any := by
  have hgeneric : GenericKey.ofKey? owner = none := by
    rw [GenericKey.ofKey?, hkey]
    rfl
  have hproperty := Scope.Performs.value (fun n => Scope.performs_of_asks (scope.follows_follow n)
    (asks_walkProperty scope.document owner (GenericKey.ofKey? owner) schema)) s
  have hschema := Scope.Performs.value (fun n => Scope.performs_walkSchema (scope.follows_follow n) schema) t
  rw [hproperty, hschema, hgeneric, Document.propertyType_eq_schemaType h]

end

/-- A list of users. -/
def listOfUsers : Schema :=
  { Schema.blank with
    type := some "array", items := some { Schema.blank with reference := some "#/definitions/User" } }

/-- As a property of a group and by itself a list of users is an array of users. -/
theorem walkProperty_eq_walkSchema_listOfUsers :
    let scope : Scope := ⟨{ Document.blank with definitions := .insert .empty "User" .blank }, .empty⟩
    isGenericKey "Group" = false ∧ listOfUsers.IsUniform "Group" ∧
      (walkProperty scope.follow "Group" (GenericKey.ofKey? "Group") listOfUsers .start).1 =
        ((walkSchema scope.follow listOfUsers .start).1).getD .any := by
  have huniform : listOfUsers.IsUniform "Group" := by
    refine ⟨by decide, fun r hr => absurd hr (by simp [listOfUsers, Schema.blank]), fun items hitems _ => ?_⟩
    obtain rfl := Option.some.inj hitems
    decide
  exact ⟨by decide, huniform, walkProperty_eq_walkSchema _ (by decide) huniform .start .start⟩

end ApiOutline
