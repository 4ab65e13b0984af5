import ApiOutline.Cycle.Basic
import ApiOutline.Proofs.Text.ByteOrder

/-!
# The links of a document

A definition points at another one if a reference to it stands somewhere in one of its properties: in the property
itself, in its items, in the values of its map or in its own properties, at any depth.  References without a definition
do not count.

The links of a document are collected schema by schema, with the way in which they are made.  Taken together they are
exactly these references, and the targets of a definition are what it points at, in ascending order and each once.

* `Schema.Refers`: the references in a schema, at any depth.
* `Document.PointsAt`: what a definition points at.
* `Document.mem_linksFrom_iff`, `Document.mem_targets_iff`: the links, and the targets.
* `pairwise_ascendingNames`: names in ascending order, each once.
-/

namespace ApiOutline

/-! ## References in a schema -/

/-- The reference stands somewhere in the schema. -/
inductive Schema.Refers (r : String) : Schema → Prop where
  | here {s : Schema} (h : s.reference = some r) : Refers r s
  | items {s inner : Schema} (h : s.items = some inner) (hinner : Refers r inner) : Refers r s
  | values {s inner : Schema} (h : s.additional = some (.schema inner)) (hinner : Refers r inner) : Refers r s
  | property {s : Schema} {p : String × Schema} (h : p ∈ s.properties) (hinner : Refers r p.2) : Refers r s

namespace Schema

variable {r : String}

/-- The places where a reference may stand. -/
theorem refers_iff {s : Schema} : s.Refers r ↔ s.reference = some r ∨
    (∃ inner, s.items = some inner ∧ inner.Refers r) ∨
    (∃ inner, s.additional = some (.schema inner) ∧ inner.Refers r) ∨ ∃ p ∈ s.properties, p.2.Refers r := by
  constructor
  · intro h
    cases h with
    | here h => exact Or.inl h
    | items h hinner => exact Or.inr (Or.inl ⟨_, h, hinner⟩)
    | values h hinner => exact Or.inr (Or.inr (Or.inl ⟨_, h, hinner⟩))
    | property h hinner => exact Or.inr (Or.inr (Or.inr ⟨_, h, hinner⟩))
  · rintro (h | ⟨_, h, hinner⟩ | ⟨_, h, hinner⟩ | ⟨_, h, hinner⟩)
    · exact .here h
    · exact .items h hinner
    · exact .values h hinner
    · exact .property h hinner

mutual

/-- **The links of a schema are the references in it.** -/
theorem mem_links_iff (kind : LinkKind) : ∀ s : Schema, r ∈ (links kind s).map Prod.fst ↔ s.Refers r
  | ⟨reference, type, format, description, items, additional, properties, required⟩ => by
    have hitems := mem_linksOfItems_iff items
    have hvalues := mem_linksOfValues_iff additional
    have hproperties := mem_linksOfProperties_iff kind properties
    have hown : r ∈ (reference.toList.map (·, kind)).map Prod.fst ↔ reference = some r := by simp
    rw [refers_iff, links, List.map_append, List.map_append, List.map_append, List.mem_append, List.mem_append,
      List.mem_append, hown, hitems, hvalues, hproperties, or_assoc, or_assoc]

theorem mem_linksOfItems_iff : ∀ items : Option Schema,
    r ∈ (linksOfItems items).map Prod.fst ↔ ∃ inner, items = some inner ∧ inner.Refers r
  | none => by simp [linksOfItems]
  | some inner => by
    rw [linksOfItems, mem_links_iff .items inner]
    simp

theorem mem_linksOfValues_iff : ∀ additional : Option (Additional Schema),
    r ∈ (linksOfValues additional).map Prod.fst ↔ ∃ inner, additional = some (.schema inner) ∧ inner.Refers r
  | none => by simp [linksOfValues]
  | some (.allowed _) => by simp [linksOfValues]
  | some (.schema inner) => by
    rw [linksOfValues, mem_links_iff .mapValue inner]
    simp

theorem mem_linksOfProperties_iff : ∀ (kind : LinkKind) (properties : List (String × Schema)),
    r ∈ (linksOfProperties kind properties).map Prod.fst ↔ ∃ p ∈ properties, p.2.Refers r
  | _, [] => by simp [linksOfProperties]
  | kind, (_, s) :: rest => by
    rw [linksOfProperties, List.map_append, List.mem_append, mem_links_iff kind s,
      mem_linksOfProperties_iff kind rest]
    simp only [List.mem_cons, exists_eq_or_imp]

end

end Schema

/-! ## What definitions point at -/

namespace Document

variable {d : Document} {key target : String}

/-- A definition points at another one, or at itself: a reference to that one stands somewhere in one of its
properties. -/
def PointsAt (d : Document) (key target : String) : Prop :=
  (d.definitions.get? target).isSome = true ∧ ∃ definition, d.definitions.get? key = some definition ∧
    ∃ p ∈ definition.properties, ∃ r, p.2.Refers r ∧ refKey r = target

/-- **The links from a definition lead to what it points at.** -/
theorem mem_linksFrom_iff : target ∈ (d.linksFrom key).map Prod.fst ↔ d.PointsAt key target := by
  unfold linksFrom PointsAt
  cases hget : d.definitions.get? key with
  | none => simp
  | some definition =>
    have hlinks : ∀ r, r ∈ (Schema.linksOfProperties .property definition.properties).map Prod.fst ↔
        ∃ p ∈ definition.properties, p.2.Refers r :=
      fun r => Schema.mem_linksOfProperties_iff .property definition.properties
    constructor
    · intro h
      obtain ⟨link, hlink, rfl⟩ := List.mem_map.mp h
      obtain ⟨hlink, hdef⟩ := List.mem_filter.mp hlink
      obtain ⟨⟨r, kind⟩, hr, rfl⟩ := List.mem_map.mp hlink
      obtain ⟨p, hp, hrefers⟩ := (hlinks r).mp (List.mem_map_of_mem hr)
      exact ⟨hdef, definition, rfl, p, hp, r, hrefers, rfl⟩
    · rintro ⟨hdef, _, hsome, p, hp, r, hrefers, rfl⟩
      obtain rfl := Option.some.inj hsome
      obtain ⟨⟨_, kind⟩, hr, rfl⟩ := List.mem_map.mp ((hlinks r).mpr ⟨p, hp, hrefers⟩)
      exact List.mem_map.mpr ⟨_, List.mem_filter.mpr ⟨List.mem_map_of_mem hr, hdef⟩, rfl⟩

/-- What is pointed at is a definition. -/
theorem PointsAt.mem_keys (h : d.PointsAt key target) : target ∈ d.definitions.keys :=
  Dict.mem_keys_of_isSome h.1

end Document

/-! ## Names in ascending order -/

@[simp] theorem mem_ascendingNames {name : String} {names : List String} :
    name ∈ ascendingNames names ↔ name ∈ names := by
  rw [ascendingNames, List.mem_eraseDups, List.mem_mergeSort]

/-- Names that ascend ascend strictly when each of them is kept once. -/
theorem pairwise_ascendingNames (names : List String) : (ascendingNames names).Pairwise (· < ·) := by
  refine (Text.pairwise_eraseDups (Text.pairwise_mergeSort (fun name => name) names)).imp ?_
  exact fun ⟨hle, hne⟩ => Std.lt_of_le_of_ne hle hne

/-- **The targets of a definition are what it points at.** -/
theorem Document.mem_targets_iff {d : Document} {key target : String} :
    target ∈ d.targets key ↔ d.PointsAt key target := by
  rw [targets, mem_ascendingNames, mem_linksFrom_iff]

end ApiOutline
