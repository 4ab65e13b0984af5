import ApiOutline.Proofs.Resolution.Moments
import ApiOutline.Proofs.Resolution.Walk

/-!
# The definitions that become models

A definition leads to those that its properties refer to and to those named as type arguments in its key.
A run from the fresh state registers the models of all definitions that its references lead to, and no
others, although a definition that is met again is cut off there, be it open or finished.

The proof has two halves.  Whatever a run meets can be reached, since every task on the way stands for
something that can be reached.  And whatever can be reached is met, since what a met definition leads to has
been met or is among the tasks still to do, and at the end there are none.

* `Document.Reachable`: what references lead to.
* `Scope.Rooted`, `Scope.Sound`, `Scope.Complete`: the two halves, as invariants of the moments.
* `Scope.met_run_iff_reachable`: both halves at the end of a run.
* `Lookup.registers_iff_reachable`: the main statement.
-/

namespace ApiOutline

/-- The definitions that references lead to.  A definition leads to those that its properties refer to, and
to those named in its key, other than the model of the key itself. -/
inductive Document.Reachable (d : Document) (roots : List String) : String → Prop where
  | root {r : String} (hr : r ∈ roots) (hdef : (d.definition? r).isSome = true) :
    Reachable d roots (refKey r)
  | member {key r : String} {definition : Schema} (hkey : Reachable d roots key)
    (hget : d.definitions.get? key = some definition) (hr : r ∈ memberReferences key definition)
    (hdef : (d.definition? r).isSome = true) : Reachable d roots (refKey r)
  | argument {key name : String} (hkey : Reachable d roots key)
    (hname : name ∈ (TypeExpr.parse none key).modelNames) (hother : name ≠ modelName key)
    (hget : (d.definitions.get? name).isSome = true) : Reachable d roots name

/-- What can be reached is a definition. -/
theorem Document.Reachable.isSome_definition {d : Document} {roots : List String} {key : String}
    (h : d.Reachable roots key) : (d.definitions.get? key).isSome = true := by
  cases h with
  | root _ hdef => exact hdef
  | member _ _ _ hdef => exact hdef
  | argument _ _ _ hget => exact hget

theorem Document.Reachable.mem_keys {d : Document} {roots : List String} {key : String}
    (h : d.Reachable roots key) : key ∈ d.definitions.keys :=
  Dict.mem_keys_of_isSome h.isSome_definition

/-- A reference to a definition by its key. -/
@[simp] theorem refKey_definitionsHead_append (key : String) :
    refKey (definitionsHead ++ key) = key := by
  have hhead : definitionsHead.toList.isPrefixOf? (definitionsHead.toList ++ key.toList) =
      some key.toList :=
    List.isPrefixOf?_eq_some_iff_append_eq.mpr rfl
  rw [refKey, dropHead?, String.toList_append, hhead]
  simp

theorem Document.mem_argumentKeys {d : Document} {key name : String} :
    name ∈ d.argumentKeys key ↔ name ∈ (TypeExpr.parse none key).modelNames ∧
      name ≠ modelName key ∧ (d.definitions.get? name).isSome = true := by
  simp [argumentKeys]

namespace Scope

variable {scope : Scope} {roots : List String} {s : Progress} {t : Task} {ts : List Task}

/-! ## What a finished definition leaves behind -/

/-- The model of a finished definition is registered, if it is not named like a builtin. -/
theorem contains_finish (s : Progress) (key name : String) :
    (scope.finish s key).registry.contains name = true ↔ s.registry.contains name = true ∨
      (name = modelName key ∧ Builtin.isName (modelName key) = false ∧
        (scope.document.definitions.get? key).isSome = true) := by
  unfold finish
  cases Builtin.isName (modelName key) with
  | true => simp
  | false =>
    cases scope.document.definitions.get? key with
    | none => simp
    | some definition =>
      simp only [Bool.false_eq_true, if_false, Option.isSome_some, and_true]
      exact Registry.contains_add s.registry (scope.model key definition) name

/-- Registered names stay registered. -/
theorem contains_advance {name : String} (h : s.registry.contains name = true) :
    (scope.advance s t).1.registry.contains name = true := by
  cases t with
  | follow r =>
    rcases scope.advance_follow_cases s r with ⟨-, hadv⟩ | ⟨_, -, -, hadv⟩ | ⟨_, -, -, hadv⟩ <;>
      rw [hadv] <;> exact h
  | finish key => exact (contains_finish s key name).mpr (Or.inl h)
  | note d => exact h
  | offer path m =>
    rw [advance, offer]
    split
    · split <;> exact h
    · exact (Registry.contains_add s.registry m name).mpr (Or.inl h)

@[simp] theorem mem_followAll {r : String} {rs : List String} : .follow r ∈ followAll rs ↔ r ∈ rs := by
  simp [followAll]

theorem mem_follow_brings {key r : String} {definition : Schema} :
    .follow r ∈ scope.brings key definition ↔ r ∈ memberReferences key definition ∨
      ∃ name ∈ scope.document.argumentKeys key, definitionsHead ++ name = r := by
  simp [brings]

/-- What has been met after a task had been met before it, or the task has entered it. -/
theorem met_of_met_advance (scope : Scope) {key : String}
    (horder : Orderly scope.document ⟨s, t :: ts⟩) (h : (scope.advance s t).1.met key = true) :
    s.met key = true ∨ ∃ r, t = .follow r ∧ key = refKey r ∧ ∀ definition,
      scope.document.definitions.get? key = some definition →
        scope.advance s t = (s.enter key, scope.brings key definition) := by
  cases t with
  | follow r =>
    rcases scope.advance_follow_cases s r with ⟨-, hadv⟩ | ⟨_, -, -, hadv⟩ |
      ⟨definition, hdef, -, hadv⟩ <;> rw [hadv] at h
    · exact Or.inl h
    · exact Or.inl h
    · refine (Progress.met_enter_iff.mp h).imp_right ?_
      rintro rfl
      refine ⟨r, rfl, rfl, fun definition' hget => ?_⟩
      obtain rfl : definition = definition' := Option.some.inj (hdef.symm.trans hget)
      exact hadv
  | finish key' =>
    rw [show (scope.advance s (.finish key')).1 = scope.finish s key' from rfl,
      scope.met_finish_of_met horder.met_of_finish] at h
    exact Or.inl h
  | note d => exact Or.inl h
  | offer path model =>
    rw [show (scope.advance s (.offer path model)).1 = offer s path model from rfl,
      met_offer] at h
    exact Or.inl h

/-! ## What is met can be reached -/

/-- Everything met and everything to be followed can be reached. -/
structure Rooted (scope : Scope) (roots : List String) (m : Moment) : Prop where
  met : ∀ key, m.state.met key = true → scope.document.Reachable roots key
  pending : ∀ r, .follow r ∈ m.tasks → (scope.document.definition? r).isSome = true →
    scope.document.Reachable roots (refKey r)

/-- What a definition that can be reached brings can be reached. -/
theorem reachable_of_mem_brings {key r : String} {definition : Schema}
    (hkey : scope.document.Reachable roots key)
    (hget : scope.document.definitions.get? key = some definition)
    (hr : .follow r ∈ scope.brings key definition)
    (hdef : (scope.document.definition? r).isSome = true) :
    scope.document.Reachable roots (refKey r) := by
  rcases mem_follow_brings.mp hr with hmember | ⟨name, hname, rfl⟩
  · exact .member hkey hget hmember hdef
  · obtain ⟨hmem, hother, htarget⟩ := Document.mem_argumentKeys.mp hname
    rw [refKey_definitionsHead_append]
    exact .argument hkey hmem hother htarget

theorem Rooted.advance (horder : Orderly scope.document ⟨s, t :: ts⟩)
    (h : Rooted scope roots ⟨s, t :: ts⟩) :
    Rooted scope roots ⟨(scope.advance s t).1, (scope.advance s t).2 ++ ts⟩ := by
  have htail : ∀ r, .follow r ∈ ts → (scope.document.definition? r).isSome = true →
      scope.document.Reachable roots (refKey r) :=
    fun r hr => h.pending r (List.mem_cons_of_mem _ hr)
  refine ⟨fun key hmet => ?_, fun r hr hdef => ?_⟩
  · rcases scope.met_of_met_advance horder hmet with hmet | ⟨r, rfl, rfl, -⟩
    · exact h.met key hmet
    · cases hdef : scope.document.definition? r with
      | some definition => exact h.pending r List.mem_cons_self (by rw [hdef]; rfl)
      | none =>
        simp only [Scope.advance, hdef] at hmet
        exact h.met _ hmet
  · cases t with
    | follow r' =>
      rcases scope.advance_follow_cases s r' with ⟨-, hadv⟩ | ⟨_, -, -, hadv⟩ |
        ⟨definition, hget, -, hadv⟩ <;> rw [hadv] at hr
      · exact htail r hr hdef
      · exact htail r hr hdef
      · have hkey := h.pending r' List.mem_cons_self (by rw [hget]; rfl)
        rcases List.mem_append.mp hr with hnew | hold
        · exact reachable_of_mem_brings hkey hget hnew hdef
        · exact htail r hold hdef
    | finish key => exact htail r hr hdef
    | note d => exact htail r hr hdef
    | offer path model => exact htail r hr hdef

/-- Before the first task nothing has been met, and everything to be followed is a root. -/
theorem Rooted.start (hmet : ∀ key, ¬ s.met key = true) (hroots : ∀ r, .follow r ∈ ts → r ∈ roots) :
    Rooted scope roots ⟨s, ts⟩ where
  met := fun key h => absurd h (hmet key)
  pending := fun r hr hdef => .root (hroots r hr) hdef

/-- Everything met, everything to be followed and everything registered can be reached. -/
structure Sound (scope : Scope) (roots : List String) (m : Moment) : Prop where
  met : ∀ key, m.state.met key = true → scope.document.Reachable roots key
  pending : ∀ r, .follow r ∈ m.tasks → (scope.document.definition? r).isSome = true →
    scope.document.Reachable roots (refKey r)
  unoffered : ∀ path model, .offer path model ∉ m.tasks
  named : ∀ name, m.state.registry.contains name = true → ∃ key,
    scope.document.Reachable roots key ∧ modelName key = name ∧ Builtin.isName name = false

theorem Sound.advance (horder : Orderly scope.document ⟨s, t :: ts⟩)
    (h : Sound scope roots ⟨s, t :: ts⟩) :
    Sound scope roots ⟨(scope.advance s t).1, (scope.advance s t).2 ++ ts⟩ := by
  have hrooted := Rooted.advance horder ⟨h.met, h.pending⟩
  have hunoffered : ∀ path model, .offer path model ∉ (scope.advance s t).2 ++ ts := by
    intro path model hmem
    rcases List.mem_append.mp hmem with hnew | hold
    · exact scope.offer_notMem_advance s t path model hnew
    · exact h.unoffered path model (List.mem_cons_of_mem _ hold)
  refine ⟨hrooted.met, hrooted.pending, hunoffered, fun name hname => ?_⟩
  cases t with
  | follow r =>
    rcases scope.advance_follow_cases s r with ⟨-, hadv⟩ | ⟨_, -, -, hadv⟩ | ⟨_, -, -, hadv⟩ <;>
      rw [hadv] at hname <;> exact h.named name hname
  | finish key =>
    rcases (contains_finish s key name).mp hname with hold | ⟨rfl, hbuiltin, -⟩
    · exact h.named name hold
    · exact ⟨key, h.met key horder.met_of_finish, rfl, hbuiltin⟩
  | note d => exact h.named name hname
  | offer path model => exact absurd List.mem_cons_self (h.unoffered path model)

theorem Sound.start (scope : Scope) (roots : List String) :
    Sound scope roots ⟨.start, followAll roots⟩ where
  met := fun key hmet => absurd hmet (Progress.met_start key)
  pending := fun r hr hdef => .root (mem_followAll.mp hr) hdef
  unoffered := fun path model hmem => by simp [followAll] at hmem
  named := fun name hname => absurd hname (by simp [Registry.contains, Progress.start, Registry.empty])

/-! ## What can be reached is met -/

/-- The definition that a reference names has been met, or the reference is still to be followed. -/
def Covered (scope : Scope) (m : Moment) (r : String) : Prop :=
  (scope.document.definition? r).isSome = true →
    m.state.met (refKey r) = true ∨ .follow r ∈ m.tasks

theorem Covered.advance {r : String} (h : scope.Covered ⟨s, t :: ts⟩ r) :
    scope.Covered ⟨(scope.advance s t).1, (scope.advance s t).2 ++ ts⟩ r := by
  intro hdef
  rcases h hdef with hmet | htask
  · exact Or.inl (scope.met_advance hmet t)
  rcases List.mem_cons.mp htask with rfl | htask
  · -- it is this reference that is followed now
    rcases scope.advance_follow_cases s r with ⟨hnone, -⟩ | ⟨_, -, hmet, hadv⟩ | ⟨_, -, -, hadv⟩
    · rw [hnone] at hdef
      exact absurd hdef (by simp)
    · rw [hadv]
      exact Or.inl hmet
    · rw [hadv]
      exact Or.inl (s.met_enter_self _)
  · exact Or.inr (List.mem_append_right _ htask)

/-- The roots and everything that met definitions lead to are covered, and the models of met definitions are
registered as soon as they are finished. -/
structure Complete (scope : Scope) (roots : List String) (m : Moment) : Prop where
  roots : ∀ r ∈ roots, scope.Covered m r
  closed : ∀ key definition, m.state.met key = true →
    scope.document.definitions.get? key = some definition →
      ∀ r, .follow r ∈ scope.brings key definition → scope.Covered m r
  registered : ∀ key, m.state.met key = true →
    (scope.document.definitions.get? key).isSome = true → Builtin.isName (modelName key) = false →
      m.state.registry.contains (modelName key) = true ∨ .finish key ∈ m.tasks

theorem Complete.advance (horder : Orderly scope.document ⟨s, t :: ts⟩)
    (h : Complete scope roots ⟨s, t :: ts⟩) :
    Complete scope roots ⟨(scope.advance s t).1, (scope.advance s t).2 ++ ts⟩ := by
  -- what had been met before this task stays as it should be
  have hclosed : ∀ key definition, s.met key = true →
      scope.document.definitions.get? key = some definition →
        ∀ r, .follow r ∈ scope.brings key definition →
          scope.Covered ⟨(scope.advance s t).1, (scope.advance s t).2 ++ ts⟩ r :=
    fun key definition hmet hget r hr => (h.closed key definition hmet hget r hr).advance
  have hregistered : ∀ key, s.met key = true →
      (scope.document.definitions.get? key).isSome = true →
        Builtin.isName (modelName key) = false →
          (scope.advance s t).1.registry.contains (modelName key) = true ∨
            .finish key ∈ (scope.advance s t).2 ++ ts := by
    intro key hmet hget hbuiltin
    rcases h.registered key hmet hget hbuiltin with hname | htask
    · exact Or.inl (contains_advance hname)
    rcases List.mem_cons.mp htask with rfl | htask
    · exact Or.inl ((contains_finish s key _).mpr (Or.inr ⟨rfl, hbuiltin, hget⟩))
    · exact Or.inr (List.mem_append_right _ htask)
  refine ⟨fun r hr => (h.roots r hr).advance, ?_, ?_⟩
  · intro key definition hmet hget
    rcases scope.met_of_met_advance horder hmet with hmet | ⟨r, rfl, rfl, hadv⟩
    · exact hclosed key definition hmet hget
    · intro r' hr' _
      rw [hadv definition hget]
      exact Or.inr (List.mem_append_left _ hr')
  · intro key hmet hget hbuiltin
    rcases scope.met_of_met_advance horder hmet with hmet | ⟨r, rfl, rfl, hadv⟩
    · exact hregistered key hmet hget hbuiltin
    · obtain ⟨definition, hget⟩ := Option.isSome_iff_exists.mp hget
      rw [hadv definition hget]
      exact Or.inr (List.mem_append_left _ (by simp [brings]))

/-- Before the first task nothing has been met, and the roots are to be followed. -/
theorem Complete.start (hmet : ∀ key, ¬ s.met key = true) (hroots : ∀ r ∈ roots, .follow r ∈ ts) :
    Complete scope roots ⟨s, ts⟩ where
  roots := fun r hr _ => Or.inr (hroots r hr)
  closed := fun key _ h => absurd h (hmet key)
  registered := fun key h => absurd h (hmet key)

/-- At the end of a run everything that can be reached has been met. -/
theorem Complete.met_of_reachable {key : String} (h : Complete scope roots ⟨s, []⟩)
    (hkey : scope.document.Reachable roots key) : s.met key = true := by
  have hend : ∀ r, (scope.document.definition? r).isSome = true → scope.Covered ⟨s, []⟩ r →
      s.met (refKey r) = true :=
    fun _ hdef hcovered => (hcovered hdef).resolve_right List.not_mem_nil
  induction hkey with
  | root hr hdef => exact hend _ hdef (h.roots _ hr)
  | member _ hget hr hdef ih =>
    exact hend _ hdef (h.closed _ _ ih hget _ (mem_follow_brings.mpr (Or.inl hr)))
  | @argument key name hkey hname hother htarget ih =>
    obtain ⟨definition, hget⟩ := Option.isSome_iff_exists.mp hkey.isSome_definition
    have hbrings : .follow (definitionsHead ++ name) ∈ scope.brings key definition :=
      mem_follow_brings.mpr (Or.inr ⟨name, Document.mem_argumentKeys.mpr ⟨hname, hother, htarget⟩, rfl⟩)
    have hmet := hend _ (by rwa [Document.definition?, refKey_definitionsHead_append])
      (h.closed key definition ih hget _ hbrings)
    rwa [refKey_definitionsHead_append] at hmet

/-- At the end of a run everything is covered. -/
theorem complete_run (hmet : ∀ key, ¬ s.met key = true) (horder : Orderly scope.document ⟨s, ts⟩)
    (hroots : ∀ r ∈ roots, .follow r ∈ ts) : Complete scope roots ⟨scope.run s ts, []⟩ :=
  (((Orderly.kept scope).and Complete.advance).run ⟨horder, Complete.start hmet hroots⟩).2

/-- **What a run meets is what can be reached.**  Nothing is met before it, and its tasks follow the roots. -/
theorem met_run_iff_reachable (hmet : ∀ key, ¬ s.met key = true)
    (horder : Orderly scope.document ⟨s, ts⟩) (hroots : ∀ r, .follow r ∈ ts ↔ r ∈ roots) (key : String) :
    (scope.run s ts).met key = true ↔ scope.document.Reachable roots key := by
  constructor
  · have hrooted := ((Orderly.kept scope).and Rooted.advance).run
      ⟨horder, Rooted.start hmet fun r hr => (hroots r).mp hr⟩
    exact hrooted.2.met key
  · exact (complete_run hmet horder fun r hr => (hroots r).mpr hr).met_of_reachable

end Scope

/-- Whether a definition can be reached is found out by a run. -/
instance (d : Document) (roots : List String) : DecidablePred (d.Reachable roots) := fun key =>
  decidable_of_iff ((Scope.run ⟨d, .empty⟩ .start (followAll roots)).met key = true)
    (Scope.met_run_iff_reachable Progress.met_start (Orderly.start d (finishes?_followAll roots))
      (fun _ => Scope.mem_followAll) key)

/-! ## The models that are registered -/

namespace Lookup

/-- Lookups one after the other end where a run through all their references ends. -/
theorem walk_apply (scope : Scope) (lookups : List Lookup) (s : Progress) :
    (lookups.forM fun l => discard (l.walk scope)) s =
      ((), scope.run s (followAll (lookups.flatMap references))) := by
  rw [followAll_flatMap]
  exact Scope.Performs.forM (n := scope.unmet s + 1) (fun l _ => l.performs_walk.discard) s
    (Nat.lt_succ_self _)

/-- **Exactly the definitions that can be reached become models.**  After any lookups, one after the other
from the fresh state, a name has a model if and only if it is the model name of a definition that the
lookups lead to and no name of a builtin. -/
theorem registers_iff_reachable (scope : Scope) (lookups : List Lookup) (name : String) :
    (((lookups.forM fun l => discard (l.walk scope)) .start).2.registry.contains name = true) ↔
      ∃ key, scope.document.Reachable (lookups.flatMap references) key ∧
        modelName key = name ∧ Builtin.isName name = false := by
  rw [walk_apply]
  have horder := Orderly.start scope.document (finishes?_followAll (lookups.flatMap references))
  constructor
  · have hsound := ((Orderly.kept scope).and Scope.Sound.advance).run
      ⟨horder, Scope.Sound.start scope (lookups.flatMap references)⟩
    exact hsound.2.named name
  · rintro ⟨key, hkey, rfl, hbuiltin⟩
    have hcomplete := ((Orderly.kept scope).and Scope.Complete.advance).run
      ⟨horder, Scope.Complete.start Progress.met_start fun r hr => Scope.mem_followAll.mpr hr⟩
    have hmet := hcomplete.2.met_of_reachable hkey
    exact (hcomplete.2.registered key hmet hkey.isSome_definition hbuiltin).resolve_right
      List.not_mem_nil

end Lookup

end ApiOutline
