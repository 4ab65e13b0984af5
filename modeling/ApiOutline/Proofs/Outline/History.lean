import ApiOutline.Proofs.Outline.Build

/-!
# What a walk finds does not depend on the past

A walk reads and changes a state in which anything may have been registered, finished or left open.  None
of it shows in what the walk finds: the types, the endpoint of an operation and the model of a definition
are those that the document determines.

* `types_independent_of_state`: the main statement.
-/

namespace ApiOutline

namespace Scope.Performs

/-- The value of a walk that performs tasks, from any state. -/
theorem value {scope : Scope} {α : Type} {w : Walk α} {a : α} {ts : List Task}
    (h : ∀ n, scope.Performs n w a ts) (s : Progress) : (w s).1 = a := by
  rw [h (scope.unmet s + 1) s (Nat.lt_succ_self _)]

end Scope.Performs

open Scope

/-- A model that the walk along a reference registers is the one of its definition. -/
theorem mem_models_follow {scope : Scope} {r : String} {s : Progress} {m : Model}
    (h : m ∈ (scope.follow r s).2.registry.models) :
    m ∈ s.registry.models ∨ ∃ key definition,
      scope.document.definitions.get? key = some definition ∧ m = scope.model key definition := by
  rw [follow_apply] at h
  refine (scope.mem_models_run h).imp_right fun hnew => ?_
  rcases hnew with ⟨path, htask⟩ | ⟨key, definition, hdef, e, -⟩
  · exact absurd htask (by simp)
  · exact ⟨key, definition, hdef, e⟩

/-- **The past of a run does not show in what it finds.**  From any two states, however they came about,
references, items, declared types and schemas have the same types, an operation becomes the same
endpoint, and the walk through a definition gives the same model; a model that is registered from one
state is the one that the walk through its definition gives from the other.  The type of a reference is
the one its key spells, if the definition is there, be it new, open or finished. -/
theorem types_independent_of_state (scope : Scope) (rules : NamingRules) (s t : Progress) :
    (∀ r, (scope.follow r s).1 = (scope.follow r t).1) ∧
    (∀ schema, (walkItems scope.follow schema s).1 = (walkItems scope.follow schema t).1) ∧
    (∀ schema, (walkObject scope.follow schema s).1 = (walkObject scope.follow schema t).1) ∧
    (∀ schema, (walkSchema scope.follow schema s).1 = (walkSchema scope.follow schema t).1) ∧
    (∀ path verb o, (Operation.build scope rules path verb o s).1 =
      (Operation.build scope rules path verb o t).1) ∧
    (∀ key definition, (scope.walkModel scope.follow key definition s).1 =
      (scope.walkModel scope.follow key definition t).1) ∧
    (∀ r, ∀ m ∈ (scope.follow r s).2.registry.models, m ∈ s.registry.models ∨
      ∃ key definition, scope.document.definitions.get? key = some definition ∧
        m = (scope.walkModel scope.follow key definition t).1) ∧
    (∀ r, (scope.follow r s).1 =
      if (scope.document.definition? r).isSome then TypeExpr.parse none (refKey r)
      else .unresolved r) := by
  have hfollow := follows_follow scope
  have hmodel : ∀ key definition u, (scope.walkModel scope.follow key definition u).1 =
      scope.model key definition := fun key definition =>
    Performs.value fun n => performs_walkModel (hfollow n) key definition
  refine ⟨fun r => ?_, fun schema => ?_, fun schema => ?_, fun schema => ?_,
    fun path verb o => ?_, fun key definition => ?_, fun r m hm => ?_, fun r => ?_⟩
  · rw [follow_apply, follow_apply]
  · have h := Performs.value fun n => performs_walkItems (hfollow n) schema
    rw [h s, h t]
  · have h := Performs.value fun n => performs_walkObject (hfollow n) schema
    rw [h s, h t]
  · have h := Performs.value fun n => performs_walkSchema (hfollow n) schema
    rw [h s, h t]
  · have h : ∀ u, (o.build scope rules path verb u).1 = o.endpoint scope.document rules path verb :=
      Performs.value fun _ => Operation.performs_build rules path verb o
    rw [h s, h t]
  · rw [hmodel, hmodel]
  · refine (mem_models_follow hm).imp_right ?_
    rintro ⟨key, definition, hdef, e⟩
    exact ⟨key, definition, hdef, by rw [e, hmodel]⟩
  · rw [follow_apply, Document.referenceType]
    cases scope.document.definition? r <;> rfl

end ApiOutline
