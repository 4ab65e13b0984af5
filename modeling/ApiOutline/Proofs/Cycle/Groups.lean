import ApiOutline.Proofs.Cycle.Links
import ApiOutline.Proofs.Cycle.Reach

/-!
# The cycle groups of a document

A definition leads to another one if there is a way from link to link, with one link at least.  The definitions that a
definition leads to and that lead back to it are its circle.  All members of a circle have the same one, so circles do
not overlap, and a definition has no circle if it does not lead back to itself.

The cycle groups are the circles.  Each of them is listed once, at its first member, so the groups ascend as their
members do.

* `Document.LeadsTo`: the ways from link to link.
* `Document.circle`: the circle of a definition.
* `Document.mem_cycles_iff`: the groups are the circles at their first members.
* `Document.CyclesExact`, `Document.cycles_exact`: the main statement.
-/

namespace ApiOutline

namespace Document

variable {d : Document} {key other : String} {g : CycleGroup}

/-! ## Ways -/

/-- There is a way from a definition to another one, or back to it, with one link at least. -/
def LeadsTo (d : Document) : String → String → Prop :=
  Relation.TransGen d.PointsAt

theorem mem_reachableFrom_iff : other ∈ d.reachableFrom key ↔ d.LeadsTo key other := by
  have hlinks : (fun k t => t ∈ (d.linksFrom k).map Prod.fst) = d.PointsAt := by
    funext k t
    exact propext mem_linksFrom_iff
  rw [reachableFrom, Cycle.mem_reachable_iff fun _ _ h => (mem_linksFrom_iff.mp h).mem_keys, hlinks, LeadsTo]

theorem LeadsTo.mem_keys (h : d.LeadsTo key other) : other ∈ d.definitions.keys := by
  cases h with
  | single hstep => exact hstep.mem_keys
  | tail _ hstep => exact hstep.mem_keys

/-! ## Circles -/

/-- The definitions that a definition leads to and that lead back to it, ascending. -/
def circle (d : Document) (key : String) : List String :=
  (ascendingNames d.definitions.keys).filter fun other =>
    (d.reachableFrom key).contains other && (d.reachableFrom other).contains key

theorem mem_circle_iff : other ∈ d.circle key ↔ d.LeadsTo key other ∧ d.LeadsTo other key := by
  rw [circle, List.mem_filter, mem_ascendingNames, Bool.and_eq_true, List.contains_iff_mem, List.contains_iff_mem,
    mem_reachableFrom_iff, mem_reachableFrom_iff]
  exact and_iff_right_of_imp fun h => h.1.mem_keys

theorem pairwise_circle (d : Document) (key : String) : (d.circle key).Pairwise (· < ·) :=
  (pairwise_ascendingNames d.definitions.keys).filter _

/-- A definition with a circle stands in it. -/
theorem mem_circle_self (h : other ∈ d.circle key) : key ∈ d.circle key := by
  obtain ⟨hto, hback⟩ := mem_circle_iff.mp h
  have hself : d.LeadsTo key key := hto.trans hback
  exact mem_circle_iff.mpr ⟨hself, hself⟩

/-- **The members of a circle have the same circle.** -/
theorem circle_eq_of_mem (h : other ∈ d.circle key) : d.circle other = d.circle key := by
  obtain ⟨hto, hback⟩ := mem_circle_iff.mp h
  have hmem : ∀ k, k ∈ d.circle other ↔ k ∈ d.circle key := by
    intro k
    rw [mem_circle_iff, mem_circle_iff]
    constructor
    · rintro ⟨hotherk, hkother⟩
      exact ⟨hto.trans hotherk, hkother.trans hback⟩
    · rintro ⟨hkeyk, hkkey⟩
      exact ⟨hback.trans hkeyk, hkkey.trans hto⟩
  -- both circles are the same keys in the same order
  refine List.filter_congr fun k hk => ?_
  have hk' := hmem k
  rw [circle, circle, List.mem_filter, List.mem_filter, and_iff_right hk, and_iff_right hk] at hk'
  exact Bool.eq_iff_iff.mpr hk'

/-- The only member of a circle points at itself. -/
theorem pointsAt_self_of_circle_eq_singleton (h : d.circle key = [key]) : d.PointsAt key key := by
  have hself : d.LeadsTo key key := (mem_circle_iff.mp (h ▸ List.mem_cons_self : key ∈ d.circle key)).1
  obtain ⟨next, hstep, hback⟩ := Relation.TransGen.head'_iff.mp hself
  rcases Relation.reflTransGen_iff_eq_or_transGen.mp hback with hnext | hback
  · rwa [← hnext] at hstep
  · -- the way back runs through the circle
    have hmem : next ∈ d.circle key := mem_circle_iff.mpr ⟨.single hstep, hback⟩
    rw [h, List.mem_singleton] at hmem
    rwa [hmem] at hstep

/-! ## Groups -/

/-- **The groups are the circles at their first members.** -/
theorem cycles_eq (d : Document) : d.cycles = (ascendingNames d.definitions.keys).filterMap fun key =>
    if (d.circle key).head? = some key then some ⟨d.circle key, (d.circle key).length == 1⟩ else none := by
  simp only [cycles, cyclesAmong, List.filterMap_map, List.filter_map, List.map_map, Function.comp_def,
    List.map_id', circle]
  rfl

theorem mem_cycles_iff : g ∈ d.cycles ↔
    ∃ key, (d.circle key).head? = some key ∧ g = ⟨d.circle key, (d.circle key).length == 1⟩ := by
  rw [cycles_eq, List.mem_filterMap]
  constructor
  · rintro ⟨key, -, h⟩
    split at h
    · next hhead => exact ⟨key, hhead, (Option.some.inj h).symm⟩
    · exact absurd h (by simp)
  · rintro ⟨key, hhead, rfl⟩
    have hkey : key ∈ d.circle key := List.mem_of_head? hhead
    exact ⟨key, (List.mem_filter.mp hkey).1, by rw [if_pos hhead]⟩

/-- A group is the circle of each of its members. -/
theorem members_eq_circle (hg : g ∈ d.cycles) (hkey : key ∈ g.members) : g.members = d.circle key := by
  obtain ⟨first, -, rfl⟩ := mem_cycles_iff.mp hg
  exact (circle_eq_of_mem hkey).symm

/-- A definition that leads back to itself stands in the group of its circle. -/
theorem exists_members_eq_circle (h : d.LeadsTo key key) : ∃ g ∈ d.cycles, g.members = d.circle key := by
  have hkey : key ∈ d.circle key := mem_circle_iff.mpr ⟨h, h⟩
  cases hcircle : d.circle key with
  | nil =>
    rw [hcircle] at hkey
    exact absurd hkey List.not_mem_nil
  | cons first rest =>
    have hfirst : d.circle first = d.circle key :=
      circle_eq_of_mem (by rw [hcircle]; exact List.mem_cons_self)
    refine ⟨⟨d.circle first, (d.circle first).length == 1⟩, mem_cycles_iff.mpr ⟨first, ?_, rfl⟩, ?_⟩
    · rw [hfirst, hcircle, List.head?_cons]
    · rw [hfirst, hcircle]

theorem isSelfReferential_iff (hg : g ∈ d.cycles) : g.isSelfReferential = true ↔ g.members.length = 1 := by
  obtain ⟨key, -, rfl⟩ := mem_cycles_iff.mp hg
  exact beq_iff_eq

/-- The groups ascend by their members, as they are listed at the first ones. -/
theorem pairwise_cycles (d : Document) :
    d.cycles.Pairwise fun g g' => g.members.map Text.bytes < g'.members.map Text.bytes := by
  have hhead : ∀ (key : String) (g : CycleGroup), (if (d.circle key).head? = some key then
      some ⟨d.circle key, (d.circle key).length == 1⟩ else none) = some g → g.members.head? = some key := by
    intro key g h
    split at h
    · next hfirst =>
      obtain rfl := Option.some.inj h
      exact hfirst
    · exact absurd h (by simp)
  rw [cycles_eq, List.pairwise_filterMap]
  refine (pairwise_ascendingNames d.definitions.keys).imp fun {key key'} hlt g hg g' hg' => ?_
  obtain ⟨rest, hmembers⟩ := List.head?_eq_some_iff.mp (hhead key g hg)
  obtain ⟨rest', hmembers'⟩ := List.head?_eq_some_iff.mp (hhead key' g' hg')
  rw [hmembers, hmembers', List.map_cons, List.map_cons]
  exact List.cons_lt_cons_iff.mpr (Or.inl (Text.bytes_lt_of_lt hlt))

/-! ## The report -/

/-- The cycle groups report the circles among the definitions: who is in a group, who is in a group with whom, that no
definition is in two groups, and that the groups of one member are the definitions that point at themselves.  The
members of a group, the groups and the targets of a definition ascend, byte by byte, and none of them stands twice. -/
structure CyclesExact (d : Document) : Prop where
  mem_group_iff : ∀ key, (∃ g ∈ d.cycles, key ∈ g.members) ↔ d.LeadsTo key key
  same_group_iff : ∀ key key', key ≠ key' →
    ((∃ g ∈ d.cycles, key ∈ g.members ∧ key' ∈ g.members) ↔ d.LeadsTo key key' ∧ d.LeadsTo key' key)
  one_group : ∀ g ∈ d.cycles, ∀ g' ∈ d.cycles, ∀ key, key ∈ g.members → key ∈ g'.members → g = g'
  selfReferential_iff : ∀ g ∈ d.cycles, g.isSelfReferential = true ↔ g.members.length = 1
  pointsAt_self : ∀ g ∈ d.cycles, ∀ key, g.members = [key] → d.PointsAt key key
  members_ascend : ∀ g ∈ d.cycles, g.members.Pairwise fun a b => Text.bytes a < Text.bytes b
  groups_ascend : d.cycles.Pairwise fun g g' => g.members.map Text.bytes < g'.members.map Text.bytes
  targets_ascend : ∀ key, (d.targets key).Pairwise fun a b => Text.bytes a < Text.bytes b
  mem_targets_iff : ∀ key target, target ∈ d.targets key ↔ d.PointsAt key target

/-- **The cycle groups are exact.** -/
theorem cycles_exact (d : Document) : d.CyclesExact where
  mem_group_iff := by
    intro key
    constructor
    · rintro ⟨g, hg, hkey⟩
      rw [members_eq_circle hg hkey] at hkey
      exact (mem_circle_iff.mp hkey).1
    · intro hself
      obtain ⟨g, hg, hmembers⟩ := exists_members_eq_circle hself
      exact ⟨g, hg, hmembers ▸ mem_circle_iff.mpr ⟨hself, hself⟩⟩
  same_group_iff := by
    intro key key' _
    constructor
    · rintro ⟨g, hg, hkey, hkey'⟩
      rw [members_eq_circle hg hkey] at hkey'
      exact mem_circle_iff.mp hkey'
    · rintro ⟨hto, hback⟩
      have hkey' : key' ∈ d.circle key := mem_circle_iff.mpr ⟨hto, hback⟩
      obtain ⟨g, hg, hmembers⟩ := exists_members_eq_circle (hto.trans hback)
      exact ⟨g, hg, hmembers ▸ mem_circle_self hkey', hmembers ▸ hkey'⟩
  one_group := by
    intro g hg g' hg' key hkey hkey'
    have hmembers : g.members = g'.members :=
      (members_eq_circle hg hkey).trans (members_eq_circle hg' hkey').symm
    obtain ⟨_, -, rfl⟩ := mem_cycles_iff.mp hg
    obtain ⟨_, -, rfl⟩ := mem_cycles_iff.mp hg'
    rw [CycleGroup.mk.injEq]
    exact ⟨hmembers, congrArg (fun members => List.length members == 1) hmembers⟩
  selfReferential_iff := fun _ hg => isSelfReferential_iff hg
  pointsAt_self := by
    intro g hg key hmembers
    have hkey : key ∈ g.members := hmembers ▸ List.mem_cons_self
    exact pointsAt_self_of_circle_eq_singleton ((members_eq_circle hg hkey).symm.trans hmembers)
  members_ascend := by
    intro g hg
    obtain ⟨key, -, rfl⟩ := mem_cycles_iff.mp hg
    exact (d.pairwise_circle key).imp Text.bytes_lt_of_lt
  groups_ascend := d.pairwise_cycles
  targets_ascend := fun _ => (pairwise_ascendingNames _).imp Text.bytes_lt_of_lt
  mem_targets_iff := fun _ _ => Document.mem_targets_iff

end Document

end ApiOutline
