import ApiOutline.Outline.Build
import ApiOutline.Proofs.Resolution.Walk
import Mathlib.Data.List.Basic

/-!
# Building endpoints and the tasks of operations

The walk through an operation gives the endpoint that the document alone determines, and ends where a run
through the tasks of the operation ends.  So does each of its parts.

* `performs_walkParameters`, `performs_walkParams`, `performs_walkData`, `performs_walkReturn`: the parts.
* `Operation.performs_build`: the whole.
* `Call.performs_walk`: any call.
-/

namespace ApiOutline

namespace Scope.Performs

variable {scope : Scope} {n : Nat} {α β : Type}

theorem filterMapM {f : α → Walk (Option β)} {g : α → Option β} {ts : α → List Task} {l : List α}
    (h : ∀ a ∈ l, scope.Performs n (f a) (g a) (ts a)) :
    scope.Performs n (l.filterMapM f) (l.filterMap g) (l.flatMap ts) := by
  induction l with
  | nil => exact pure []
  | cons a l ih =>
    have hl := ih fun b hb => h b (List.mem_cons_of_mem _ hb)
    rw [List.filterMapM_cons, List.flatMap_cons]
    refine (h a List.mem_cons_self).bind ?_
    cases hg : g a with
    | none => rwa [List.filterMap_cons_none hg]
    | some b =>
      rw [List.filterMap_cons_some hg]
      exact hl.bind_pure _

end Scope.Performs

namespace Operation

open Scope

variable {scope : Scope} {n : Nat}

/-! ## Parts of an operation -/

theorem performs_walkParameters (path : String) (o : Operation) :
    scope.Performs n (o.walkParameters scope.document path) (o.parametersIn scope.document)
      (o.parameterTasks scope.document path) := by
  unfold parameterTasks missingParameters
  rw [List.map_filterMap, List.filterMap_eq_flatMap_toList]
  refine Performs.filterMapM fun entry _ => ?_
  cases entry with
  | inline p => exact Performs.pure _
  | reference target =>
    have hnote := (@Performs.note scope n (.unresolvedReference path target)).bind_pure
      fun _ => (none : Option Parameter)
    cases htarget : scope.document.parameter? (.reference target) with
    | none =>
      simp only [htarget]
      exact hnote
    | some p =>
      simp only [htarget]
      exact Performs.pure _

theorem performs_walkQuery (p : Parameter) :
    scope.Performs n (walkQuery scope p) (queryProperty scope.document p)
      (followAll (itemsReferences p.toSchema)) :=
  (performs_walkItems (follows_follow scope n) p.toSchema).bind_pure _

theorem performs_walkParams (path operationName : String) (o : Operation) (ps : List Parameter) :
    scope.Performs n (o.walkParams scope path operationName ps)
      (o.paramsArgument? scope.document operationName ps)
      (o.paramsTasks scope.document path operationName ps) := by
  unfold walkParams paramsTasks
  rw [followAll_flatMap]
  refine (Performs.mapM fun p _ => performs_walkQuery p).bind ?_
  unfold paramsArgument? paramsModel?
  cases queryParameters ps with
  | nil => exact Performs.pure _
  | cons p query => exact (Performs.offer path _).bind_pure _

theorem performs_walkSchema? (schema : Option Schema) :
    scope.Performs n (walkSchema? scope schema) (schema.bind scope.document.schemaType?)
      (followAll (schema.toList.flatMap schemaReferences)) := by
  cases schema with
  | none => exact Performs.pure _
  | some schema =>
    have hschema := performs_walkSchema (follows_follow scope n) schema
    rwa [Option.toList_some, List.flatMap_singleton]

theorem performs_noteBodies (path : String) (count : Nat) :
    scope.Performs n (noteBodies path count) ()
      (if 1 < count then [.note (.severalBodies path count)] else []) := by
  unfold noteBodies
  split
  · exact Performs.note _
  · exact Performs.pure _

theorem performs_walkData (path : String) (ps : List Parameter) :
    scope.Performs n (walkData scope path ps) (dataArgument? scope.document ps)
      (dataTasks path ps) := by
  unfold walkData dataArgument? dataTasks
  cases hbodies : bodyParameters ps with
  | nil => exact Performs.pure _
  | cons body bodies =>
    exact (performs_noteBodies path _).bind ((performs_walkSchema? body.schema).bind_pure _)

theorem performs_walkResponse (o : Operation) :
    scope.Performs n (walkResponse scope o.success?) (declaredResponse? scope.document o.success?)
      (followAll o.responseReferences) := by
  unfold responseReferences
  cases o.success? with
  | none => exact Performs.pure _
  | some response =>
    cases response with
    | reference target => exact (follows_follow scope n target).map some
    | inline description schema => exact performs_walkSchema? schema

theorem performs_walkReturn (path : String) (o : Operation) :
    scope.Performs n (o.walkReturn scope path) (o.returnType scope.document)
      (o.returnTasks scope.document path) := by
  refine (performs_walkResponse o).bind ?_
  have hmissing := (@Performs.note scope n (.missingResponse path)).bind_pure
    fun _ => TypeExpr.void
  unfold returnType responseType?
  cases declaredResponse? scope.document o.success? with
  | none => exact hmissing
  | some e => cases e with
    | unresolved reference => exact hmissing
    | _ => exact Performs.pure _

/-! ## The whole operation -/

/-- **Building an endpoint and running the tasks of its operation are the same.** -/
theorem performs_build (rules : NamingRules) (path : String) (verb : Verb) (o : Operation) :
    scope.Performs n (o.build scope rules path verb) (o.endpoint scope.document rules path verb)
      (o.tasks scope.document path) := by
  unfold tasks
  simp only [List.append_assoc]
  refine (performs_walkParameters path o).bind ?_
  refine (performs_walkParams path _ o _).bind ?_
  refine (performs_walkData path _).bind ?_
  exact (performs_walkReturn path o).bind_pure _

end Operation

namespace Call

open Scope Operation

theorem performs_walk {scope : Scope} {n : Nat} (rules : NamingRules) :
    ∀ call : Call, scope.Performs n (call.walk scope rules) () (call.tasks scope.document)
  | lookup l => l.performs_walk.discard
  | parameters path o => (performs_walkParameters path o).discard
  | params path operationName o ps => (performs_walkParams path operationName o ps).discard
  | data path ps => (performs_walkData path ps).discard
  | returned path o => (performs_walkReturn path o).discard
  | build path verb o => (performs_build rules path verb o).discard

end Call

end ApiOutline
