import ApiOutline.Proofs.Resolution.Account

/-!
# Names that are lost

Two tasks register models: the one that finishes a definition, and the one that offers the model of parameters.  A
name is given away once and for all, so what a registry holds under a name at some moment it holds at the end.  A
model that comes later and has other properties is lost.

If it was offered, the loss is recorded; if it is the one of a definition, nothing is.  So the collisions that a run
records are the losses among the models offered, and they can be found by comparing each of these with the registry
at the end, although the run compares it with the registry of the moment.

* `Scope.wants?`, `Scope.registry_advance`: the model that a task registers.
* `Scope.Discards`: the losses.
* `Scope.mem_collisions_run`: the collisions that a run records are the losses of models offered.
* `Scope.collisions_run`: they show at the end.
-/

namespace ApiOutline

namespace Scope

variable {scope : Scope} {s : Progress} {t : Task} {ts : List Task} {name : String} {m existing : Model}

/-! ## Tasks that register models -/

/-- The model that a task registers, unless its name is taken. -/
def wants? (scope : Scope) : Task → Option Model
  | .finish key =>
    if Builtin.isName (modelName key) then none
    else (scope.document.definitions.get? key).map (scope.model key)
  | .offer _ m => some m
  | .follow _ | .note _ => none

/-- **What a task does to the registry.** -/
theorem registry_advance (s : Progress) (t : Task) :
    (scope.advance s t).1.registry = ((scope.wants? t).map s.registry.add).getD s.registry := by
  cases t with
  | follow r =>
    rcases scope.advance_follow_cases s r with ⟨-, hadv⟩ | ⟨_, -, -, hadv⟩ | ⟨_, -, -, hadv⟩ <;>
      rw [hadv] <;> rfl
  | finish key =>
    simp only [advance, finish, wants?]
    split
    · rfl
    · cases scope.document.definitions.get? key <;> rfl
  | note x => rfl
  | offer path m =>
    simp only [advance, offer, wants?, Option.map_some, Option.getD_some]
    split
    · next existing hget =>
      have hname : s.registry.contains m.name = true := by
        rw [Registry.contains_eq_isSome_get?, hget, Option.isSome_some]
      rw [Registry.add_of_contains hname]
      split <;> rfl
    · rfl

theorem get?_advance (h : s.registry.get? name = some existing) (t : Task) :
    (scope.advance s t).1.registry.get? name = some existing := by
  rw [registry_advance]
  cases scope.wants? t with
  | none => exact h
  | some m => exact Registry.get?_add_of_eq_some h

/-- **What is registered under a name stays there.** -/
theorem get?_run (h : s.registry.get? name = some existing) (ts : List Task) :
    (scope.run s ts).registry.get? name = some existing :=
  scope.run_of_advance (P := fun s => s.registry.get? name = some existing) (fun _ t h => get?_advance h t) h ts

/-- A model is lost at a moment: the next task is to register it, but its name is taken by a model with other
properties. -/
structure Discards (scope : Scope) (now : Moment) (t : Task) (lost : Model) : Prop where
  next : now.tasks.head? = some t
  wanted : scope.wants? t = some lost
  taken : ∃ existing, now.state.registry.get? lost.name = some existing ∧ existing.properties ≠ lost.properties

/-! ## Losses while they happen -/

/-- A model that is offered is lost if its name is taken by one with other properties. -/
theorem exists_discards_offer_iff {path : String} {x : Diagnostic} :
    (∃ path' lost, scope.Discards ⟨s, .offer path m :: ts⟩ (.offer path' lost) lost ∧
      x = .nameCollision path' lost.name) ↔
    (∃ existing, s.registry.get? m.name = some existing ∧ existing.properties ≠ m.properties) ∧
      x = .nameCollision path m.name := by
  constructor
  · rintro ⟨_, _, ⟨hnext, -, htaken⟩, hx⟩
    obtain ⟨rfl, rfl⟩ := Task.offer.inj (Option.some.inj hnext)
    exact ⟨htaken, hx⟩
  · rintro ⟨htaken, hx⟩
    exact ⟨path, m, ⟨rfl, rfl, htaken⟩, hx⟩

/-- A collision that has been recorded after a task had been recorded before it, or the task records it, or the
task offers a model that is lost. -/
theorem mem_collisions_advance {x : Diagnostic} (hx : x.isCollision = true) :
    x ∈ (scope.advance s t).1.diagnostics ↔ x ∈ s.diagnostics ∨ .note x = t ∨
      ∃ path lost, scope.Discards ⟨s, t :: ts⟩ (.offer path lost) lost ∧ x = .nameCollision path lost.name := by
  have hnone : (∀ path lost, t ≠ .offer path lost) → ¬ ∃ path lost,
      scope.Discards ⟨s, t :: ts⟩ (.offer path lost) lost ∧ x = .nameCollision path lost.name := by
    rintro h ⟨path, lost, hlost, -⟩
    exact h path lost (Option.some.inj hlost.next)
  cases t with
  | follow r =>
    rw [or_iff_left (hnone (by simp)), or_iff_left (by simp)]
    rcases scope.advance_follow_cases s r with ⟨-, hadv⟩ | ⟨_, -, -, hadv⟩ | ⟨_, -, -, hadv⟩ <;> rw [hadv]
    · rw [Progress.note, List.mem_append, List.mem_singleton]
      refine or_iff_left ?_
      rintro rfl
      exact absurd hx (by simp [Diagnostic.isCollision, Diagnostic.unresolvedReference])
    · exact Iff.rfl
  | finish key =>
    rw [or_iff_left (hnone (by simp)), or_iff_left (by simp), advance, diagnostics_finish]
  | note y =>
    rw [or_iff_left (hnone (by simp)), advance, Progress.note, List.mem_append, List.mem_singleton,
      Task.note.injEq]
  | offer path m =>
    simp only [exists_discards_offer_iff, advance, offer, reduceCtorEq, false_or]
    cases hget : s.registry.get? m.name with
    | none => simp [Progress.register]
    | some existing =>
      by_cases hsame : existing.properties = m.properties
      · simp [hsame]
      · simp [hsame, Progress.note]

/-- **The collisions that a run records.**  Besides those that are there at first or are among the tasks, they are
the losses of models offered at the moments of the run. -/
theorem mem_collisions_run {x : Diagnostic} (hx : x.isCollision = true) :
    x ∈ (scope.run s ts).diagnostics ↔ x ∈ s.diagnostics ∨ .note x ∈ ts ∨
      ∃ n path lost, scope.Discards (scope.moment ⟨s, ts⟩ n) (.offer path lost) lost ∧
        x = .nameCollision path lost.name := by
  induction s, ts using Scope.run.induct scope with
  | case1 s =>
    have hend : ∀ n, scope.moment ⟨s, []⟩ n = ⟨s, []⟩ := fun n => by
      induction n with
      | zero => rfl
      | succ n ih => rw [moment, ih, next]
    rw [run_nil, or_iff_left]
    rintro (h | ⟨n, path, lost, hlost, -⟩)
    · exact absurd h List.not_mem_nil
    · exact absurd hlost.next (by rw [hend]; simp)
  | case2 s t ts ih =>
    have hbrought : .note x ∈ (scope.advance s t).2 ++ ts ↔ .note x ∈ ts := by
      refine ⟨fun h => (List.mem_append.mp h).resolve_left fun h => ?_, List.mem_append_right _⟩
      rcases scope.mem_advance s t h with ⟨_, h⟩ | ⟨_, h⟩ <;> exact absurd h (by simp)
    -- the losses at this moment, and those at later ones
    have hmoments : (∃ n path lost, scope.Discards (scope.moment ⟨s, t :: ts⟩ n) (.offer path lost) lost ∧
        x = .nameCollision path lost.name) ↔
        (∃ path lost, scope.Discards ⟨s, t :: ts⟩ (.offer path lost) lost ∧
          x = .nameCollision path lost.name) ∨
        ∃ n path lost, scope.Discards (scope.moment ⟨(scope.advance s t).1, (scope.advance s t).2 ++ ts⟩ n)
          (.offer path lost) lost ∧ x = .nameCollision path lost.name := by
      rw [← Nat.or_exists_add_one]
      simp only [moment_succ']
      rfl
    rw [run_cons, ih, @mem_collisions_advance scope s t ts x hx, hbrought, hmoments, List.mem_cons,
      or_assoc, or_or_or_comm]

end Scope

/-! ## Losses at the end -/

/-- What is recorded of a task as a collision, given the registry at the end: of a model offered, that there is a
model with other properties under its name. -/
def Task.losses (final : Registry) : Task → List Diagnostic
  | offer path m =>
    if (final.get? m.name).map Model.properties = some m.properties then [] else [.nameCollision path m.name]
  | note x => [x].filter Diagnostic.isCollision
  | follow _ | finish _ => []

theorem flatMap_losses_followAll (final : Registry) (rs : List String) :
    (followAll rs).flatMap (Task.losses final) = [] := by
  refine List.flatMap_eq_nil_iff.mpr fun t ht => ?_
  obtain ⟨r, -, rfl⟩ := List.mem_map.mp ht
  rfl

namespace Scope

variable {scope : Scope} {s : Progress} {ts : List Task}

/-- What a task records as a collision shows at the end of any run that goes on from there. -/
theorem collisions_advance (s : Progress) (t : Task) (ts : List Task) :
    (scope.advance s t).1.diagnostics.filter Diagnostic.isCollision =
      s.diagnostics.filter Diagnostic.isCollision ++
        t.losses (scope.run (scope.advance s t).1 ts).registry := by
  cases t with
  | follow r =>
    rw [Task.losses, List.append_nil]
    rcases scope.advance_follow_cases s r with ⟨-, hadv⟩ | ⟨_, -, -, hadv⟩ | ⟨_, -, -, hadv⟩ <;> rw [hadv]
    · rw [Progress.note, List.filter_append]
      exact List.append_nil _
    · rfl
  | finish key => rw [Task.losses, List.append_nil, advance, diagnostics_finish]
  | note x => rw [Task.losses, advance, Progress.note, List.filter_append]
  | offer path m =>
    rw [Task.losses]
    cases hget : s.registry.get? m.name with
    | none =>
      have hadv : scope.advance s (.offer path m) = (s.register m, []) := by
        simp only [advance, offer, hget]
      have hfinal : (scope.run (s.register m) ts).registry.get? m.name = some m :=
        get?_run (Registry.get?_add_self_of_eq_none hget) ts
      rw [hadv, hfinal, Option.map_some, if_pos rfl, List.append_nil]
      rfl
    | some existing =>
      rw [get?_run (get?_advance hget _) ts]
      simp only [advance, offer, hget, Option.map_some, Option.some_inj]
      split
      · rw [List.append_nil]
      · rw [Progress.note, List.filter_append]
        rfl

/-- **The collisions show at the end.**  In the order of the tasks, they are the models offered that differ from what
the registry holds at the end under their names. -/
theorem collisions_run (s : Progress) (ts : List Task) :
    (scope.run s ts).diagnostics.filter Diagnostic.isCollision =
      s.diagnostics.filter Diagnostic.isCollision ++ ts.flatMap (Task.losses (scope.run s ts).registry) := by
  induction s, ts using Scope.run.induct scope with
  | case1 s => rw [run_nil, List.flatMap_nil, List.append_nil]
  | case2 s t ts ih =>
    have hbrought : ∀ final : Registry, (scope.advance s t).2.flatMap (Task.losses final) = [] := by
      intro final
      refine List.flatMap_eq_nil_iff.mpr fun t' ht' => ?_
      rcases scope.mem_advance s t ht' with ⟨_, rfl⟩ | ⟨_, rfl⟩ <;> rfl
    rw [run_cons, ih, List.flatMap_append, hbrought, List.nil_append, List.flatMap_cons,
      collisions_advance s t ((scope.advance s t).2 ++ ts), List.append_assoc]

end Scope

end ApiOutline
