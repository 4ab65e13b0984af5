import ApiOutline.Document.Codec
import ApiOutline.Proofs.Cycle.Groups
import ApiOutline.Proofs.Resolution.Asks

/-!
# The links of a document cover the references that are followed

Links are collected from all parts of a schema, whatever they mean, and walks read the same schema for its type.  So a
walk comes to fewer places: in the values of a map to the reference of their items or else to their own, in items to
their reference and to the items inside, and it passes by a reference back to the owner of a property.  Wherever it
follows a reference, there is a link.

So a definition points at all that its properties make a walk follow, and a circle of walks from property to property
is a circle of links.

* `Document.AsksFor`: the references that the walk through a definition asks for.
* `Document.FollowsTo`: the definitions that the properties of a definition lead to.
* `Schema.refers_of_mem_propertyReferences`: the references of a property stand in it.
* `Document.links_cover_followed`: the main statement.
-/

namespace ApiOutline

/-! ## The references that are followed stand in the schema -/

section

variable {owner r : String}

namespace Schema

mutual

theorem refers_of_mem_itemsReferences : ∀ s : Schema, r ∈ itemsReferences s → s.Refers r
  | ⟨reference, type, format, description, items, additional, properties, required⟩ => by
    intro h
    rw [itemsReferences] at h
    rcases List.mem_append.mp h with hown | hinner
    · split at hown
      · exact .here (Option.mem_toList.mp hown)
      · exact absurd hown List.not_mem_nil
    · obtain ⟨inner, hitems, hrefers⟩ := exists_refers_of_mem_innerReferences items hinner
      exact .items hitems hrefers

theorem exists_refers_of_mem_innerReferences : ∀ items : Option Schema, r ∈ innerReferences items →
    ∃ inner, items = some inner ∧ inner.Refers r
  | none => fun h => absurd h List.not_mem_nil
  | some inner => fun h => ⟨inner, rfl, refers_of_mem_itemsReferences inner h⟩

end

theorem refers_of_mem_objectReferences {s : Schema} (h : r ∈ objectReferences s) : s.Refers r := by
  unfold objectReferences at h
  split at h
  · obtain ⟨inner, hitems, hrefers⟩ := exists_refers_of_mem_innerReferences s.items h
    exact .items hitems hrefers
  · exact absurd h List.not_mem_nil

theorem refers_of_mem_valueReferences {values : Schema} (h : r ∈ valueReferences owner values) : values.Refers r := by
  unfold valueReferences at h
  split at h
  · next r' hvalues =>
    split at h
    · exact absurd h List.not_mem_nil
    · obtain rfl := List.mem_singleton.mp h
      rcases Option.or_eq_some_iff.mp hvalues with hitems | ⟨-, hown⟩
      · obtain ⟨items, hitems, hreference⟩ := Option.bind_eq_some_iff.mp hitems
        exact .items hitems (.here hreference)
      · exact .here hown
  · exact absurd h List.not_mem_nil

/-- **The references of a property stand in it.** -/
theorem refers_of_mem_propertyReferences {isGeneric : Bool} {property : Schema}
    (h : r ∈ propertyReferences owner isGeneric property) : property.Refers r := by
  have hobject : ∀ {b : Bool}, r ∈ (if b then [] else objectReferences property) → property.Refers r := by
    rintro (_ | _) h
    · exact refers_of_mem_objectReferences h
    · exact absurd h List.not_mem_nil
  have hshapeIn := PropertyShape.isIn_of owner property
  unfold propertyReferences at h
  cases hshape : PropertyShape.of owner property with
  | self =>
    rw [hshape] at h
    exact absurd h List.not_mem_nil
  | reference target =>
    rw [hshape] at h hshapeIn
    exact .here (List.mem_singleton.mp h ▸ hshapeIn)
  | map additional =>
    rw [hshape] at h hshapeIn
    rcases List.mem_append.mp h with hvalues | hown
    · cases additional with
      | allowed b => exact absurd hvalues List.not_mem_nil
      | schema values => exact .values hshapeIn (refers_of_mem_valueReferences hvalues)
    · exact hobject hown
  | arrayOf target =>
    rw [hshape] at h hshapeIn
    obtain ⟨items, hitems, hreference⟩ := hshapeIn
    exact .items hitems (.here (List.mem_singleton.mp h ▸ hreference))
  | arrayOfAny =>
    rw [hshape] at h
    exact hobject h
  | declared =>
    rw [hshape] at h
    exact refers_of_mem_objectReferences h

end Schema

end

/-! ## Circles -/

namespace Document

variable {d : Document} {key target r : String}

/-- The walk through one of the properties of the definition with this key asks for the reference. -/
def AsksFor (d : Document) (key r : String) : Prop :=
  ∃ definition, d.definitions.get? key = some definition ∧ ∃ p ∈ definition.properties, ∃ e rs,
    Asks d.referenceType (fun follow => walkProperty follow key (GenericKey.ofKey? key) p.2) e rs ∧ r ∈ rs

/-- The properties of a definition make a walk follow a reference to the definition with the key `target`. -/
def FollowsTo (d : Document) (key target : String) : Prop :=
  (d.definitions.get? target).isSome = true ∧ ∃ r, d.AsksFor key r ∧ refKey r = target

/-- What the walk through a definition asks for are the references of its properties. -/
theorem asksFor_iff : d.AsksFor key r ↔
    ∃ definition, d.definitions.get? key = some definition ∧ r ∈ memberReferences key definition := by
  have hasks := fun p : String × Schema => asks_walkProperty d key (GenericKey.ofKey? key) p.2
  simp only [isSome_ofKey?] at hasks
  simp only [AsksFor, memberReferences, List.mem_flatMap]
  constructor
  · rintro ⟨definition, hget, p, hp, e, rs, hrs, hr⟩
    rw [hrs.unique (hasks p)] at hr
    exact ⟨definition, hget, p, hp, hr⟩
  · rintro ⟨definition, hget, p, hp, hr⟩
    exact ⟨definition, hget, p, hp, _, _, hasks p, hr⟩

/-- **Wherever a walk follows a reference, there is a link.** -/
theorem FollowsTo.pointsAt (h : d.FollowsTo key target) : d.PointsAt key target := by
  obtain ⟨htarget, r, hr, hkey⟩ := h
  obtain ⟨definition, hget, hr⟩ := asksFor_iff.mp hr
  obtain ⟨p, hp, hr⟩ := List.mem_flatMap.mp hr
  exact ⟨htarget, definition, hget, p, hp, r, Schema.refers_of_mem_propertyReferences hr, hkey⟩

/-- **The links cover the references that are followed.**  A reference that the walk through a property of a
definition asks for, be its key generic or not, leads to one of the targets of the definition, if it leads anywhere; and
a definition from which such references lead back to it, in one step or more, stands in a cycle group. -/
theorem links_cover_followed (d : Document) :
    (∀ key r, d.AsksFor key r → (d.definition? r).isSome = true → refKey r ∈ d.targets key) ∧
    ∀ key, Relation.TransGen d.FollowsTo key key → ∃ g ∈ d.cycles, key ∈ g.members := by
  refine ⟨fun key r hr htarget => ?_, fun key hcircle => ?_⟩
  · have hfollows : d.FollowsTo key (refKey r) := ⟨htarget, r, hr, rfl⟩
    exact mem_targets_iff.mpr hfollows.pointsAt
  · have hself : d.LeadsTo key key := Relation.TransGen.mono (fun _ _ => FollowsTo.pointsAt) _ _ hcircle
    obtain ⟨g, hg, hmembers⟩ := exists_members_eq_circle hself
    exact ⟨g, hg, hmembers ▸ mem_circle_iff.mpr ⟨hself, hself⟩⟩

/-- An order has a list of lines, and a line a map with the order by its number. -/
def ordersWithLines : Document :=
  let refer (key : String) : Schema := { Schema.blank with reference := some (definitionsHead ++ key) }
  { Document.blank with
    definitions := ⟨[
      ("Order", { Schema.blank with properties := [
        ("lines", { Schema.blank with type := some "array", items := some (refer "Line") })] }),
      ("Line", { Schema.blank with properties := [
        ("orders", { Schema.blank with type := some "object", additional := some (.schema (refer "Order")) })] })],
      by decide⟩ }

/-- The lists of lines and the maps of orders are links, and they form a circle. -/
theorem links_cover_followed_ordersWithLines :
    ordersWithLines.AsksFor "Order" "#/definitions/Line" ∧ "Line" ∈ ordersWithLines.targets "Order" ∧
    ∃ g ∈ ordersWithLines.cycles, "Order" ∈ g.members := by
  have hlines : ordersWithLines.AsksFor "Order" "#/definitions/Line" := asksFor_iff.mpr ⟨_, rfl, by decide⟩
  have horders : ordersWithLines.AsksFor "Line" "#/definitions/Order" := asksFor_iff.mpr ⟨_, rfl, by decide⟩
  have hto : ordersWithLines.FollowsTo "Order" "Line" := ⟨by decide, _, hlines, by decide⟩
  have hback : ordersWithLines.FollowsTo "Line" "Order" := ⟨by decide, _, horders, by decide⟩
  obtain ⟨hlinks, hgroups⟩ := links_cover_followed ordersWithLines
  exact ⟨hlines, hlinks "Order" "#/definitions/Line" hlines (by decide), hgroups "Order" (.tail (.single hto) hback)⟩

end Document

end ApiOutline
