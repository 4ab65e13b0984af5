import ApiOutline.Proofs.Outline.Build
import ApiOutline.Proofs.Resolution.Moments

/-!
# Circles among definitions do no harm

Definitions may refer to each other in any circle, through properties, items, map values and type
arguments.  Whatever calls are made one after the other, beginning with a fresh state, each of them comes to
its end, the definitions in progress are in order at every moment, and no definition is walked twice.

* `Scope.FollowsInside`, `Scope.exists_moment_followsInside`: the references that are followed inside a definition.
* `Call.walk_apply`: any calls, as a run.
* `Call.orderly_moment`: the order at every moment of that run.
* `calls_end_in_order`: the main statement.
-/

namespace ApiOutline

namespace Scope

variable {scope : Scope} {key : String} {definition : Schema} {s t : Progress} {first : Moment} {n : Nat} {r : String}
  {ts : List Task}

/-! ## References inside definitions -/

variable (scope key definition s) in
/-- The references that the walk through a definition from the state `s` follows itself, with the states that it has come
to then.  They are read off `walkDefinition_eq`. -/
inductive FollowsInside : String → Progress → Prop where
  /-- For a property, after the references before it. -/
  | member {before after : List String} {r : String} (h : memberReferences key definition = before ++ r :: after) :
    FollowsInside r (followEach scope.follow before (s.enter key)).2
  /-- For a type argument, after all properties and the type arguments before it. -/
  | argument {before after : List String} {r : String}
    (h : (scope.document.argumentKeys key).map (definitionsHead ++ ·) = before ++ r :: after) :
    FollowsInside r (followEach scope.follow before (scope.walkMembers scope.follow key definition s).2).2

/-- The tasks that a definition brings follow the references inside it, each in the state that its walk has come to. -/
theorem FollowsInside.exists_brings_eq (hdef : scope.document.definitions.get? key = some definition)
    (hmet : s.met key = false) (h : scope.FollowsInside key definition s r t) :
    ∃ before after, scope.brings key definition = before ++ .follow r :: after ∧
      scope.run (s.enter key) before = t := by
  cases h with
  | @member before after r h =>
    have hbrings : scope.brings key definition = followAll before ++ .follow r :: (followAll after ++ .finish key ::
        followAll ((scope.document.argumentKeys key).map (definitionsHead ++ ·))) := by
      rw [brings, h, followAll_append, followAll_cons, List.append_assoc, List.cons_append]
    exact ⟨_, _, hbrings, by rw [followEach_apply]⟩
  | @argument before after r h =>
    refine ⟨followAll (memberReferences key definition) ++ .finish key :: followAll before, followAll after, ?_, ?_⟩
    · rw [brings, h, followAll_append, followAll_cons, List.append_assoc, List.cons_append]
    · rw [run_append, run_cons, advance, List.nil_append, walkMembers_apply hdef hmet, followEach_apply]

/-- A reference that is followed at a moment has been followed at a later one, and the tasks behind it are left. -/
theorem exists_moment_followed (h : scope.moment first n = ⟨s, .follow r :: ts⟩) :
    ∃ m, n < m ∧ scope.moment first m = ⟨(scope.follow r s).2, ts⟩ := by
  have hfirst : scope.moment first n = ⟨s, [.follow r] ++ ts⟩ := h
  obtain ⟨m, hle, hend⟩ := scope.exists_moment_eq_of_append hfirst
  refine ⟨m, Nat.lt_of_le_of_ne hle ?_, by rw [hend, follow_apply]⟩
  rintro rfl
  rw [h] at hend
  exact List.cons_ne_self _ _ (Moment.mk.inj hend).2

/-- **The references inside a definition are followed at moments of the run.** -/
theorem exists_moment_followsInside (hopens : scope.opens? (scope.moment first n) = some key)
    (hdef : scope.document.definitions.get? key = some definition)
    (h : scope.FollowsInside key definition (scope.moment first n).state r t) :
    ∃ m ts, n < m ∧ scope.moment first m = ⟨t, .follow r :: ts⟩ := by
  obtain ⟨definition', ts, hdef', hmet, hnext⟩ := next_of_opens? hopens
  obtain rfl : definition' = definition := Option.some.inj (hdef'.symm.trans hdef)
  obtain ⟨before, after, hbrings, rfl⟩ := h.exists_brings_eq hdef hmet
  have hopened : scope.moment first (n + 1) =
      ⟨(scope.moment first n).state.enter key, before ++ (.follow r :: after ++ ts)⟩ := by
    rw [moment, hnext, hbrings, List.append_assoc]
  obtain ⟨m, hle, hm⟩ := scope.exists_moment_eq_of_append hopened
  exact ⟨m, _, hle, hm⟩

end Scope

namespace Call

open Scope Operation

/-- Calls one after the other end where a run through all their tasks ends. -/
theorem walk_apply (scope : Scope) (rules : NamingRules) (calls : List Call) (s : Progress) :
    (calls.forM (Call.walk scope rules)) s =
      ((), scope.run s (calls.flatMap (Call.tasks scope.document))) :=
  Performs.forM (fun call _ => performs_walk (n := scope.unmet s + 1) rules call) s
    (Nat.lt_succ_self _)

/-! ## Order -/

theorem finishes?_map {α : Type} {f : α → Task} (h : ∀ a, (f a).finishes? = none) (l : List α) :
    (l.map f).filterMap Task.finishes? = [] := by
  rw [List.filterMap_map, List.filterMap_eq_nil_iff]
  exact fun a _ => h a

theorem finishes?_parameterTasks (d : Document) (path : String) (o : Operation) :
    (o.parameterTasks d path).filterMap Task.finishes? = [] :=
  finishes?_map (fun _ => rfl) _

theorem finishes?_paramsTasks (d : Document) (path name : String) (o : Operation)
    (ps : List Parameter) : (o.paramsTasks d path name ps).filterMap Task.finishes? = [] := by
  rw [paramsTasks, List.filterMap_append, finishes?_followAll, finishes?_map fun _ => rfl,
    List.nil_append]

theorem finishes?_dataTasks (path : String) (ps : List Parameter) :
    (dataTasks path ps).filterMap Task.finishes? = [] := by
  rw [dataTasks, List.filterMap_append, finishes?_followAll, List.append_nil]
  split <;> rfl

theorem finishes?_returnTasks (d : Document) (path : String) (o : Operation) :
    (o.returnTasks d path).filterMap Task.finishes? = [] := by
  rw [returnTasks, List.filterMap_append, finishes?_followAll, List.nil_append]
  split <;> rfl

/-- A call leaves it to the run to finish definitions. -/
theorem finishes?_tasks (d : Document) (call : Call) :
    (call.tasks d).filterMap Task.finishes? = [] := by
  cases call with
  | lookup l => exact finishes?_followAll l.references
  | parameters path o => exact finishes?_parameterTasks d path o
  | params path operationName o ps => exact finishes?_paramsTasks d path operationName o ps
  | data path ps => exact finishes?_dataTasks path ps
  | returned path o => exact finishes?_returnTasks d path o
  | build path verb o =>
    simp only [tasks, Operation.tasks, List.filterMap_append, finishes?_parameterTasks,
      finishes?_paramsTasks, finishes?_dataTasks, finishes?_returnTasks, List.append_nil]

/-- The definitions in progress are in order at every moment of any calls. -/
theorem orderly_moment (scope : Scope) (calls : List Call) (n : Nat) :
    Orderly scope.document
      (scope.moment ⟨.start, calls.flatMap (Call.tasks scope.document)⟩ n) := by
  refine (Orderly.kept scope).moment (Orderly.start scope.document ?_) n
  rw [List.filterMap_flatMap, List.flatMap_eq_nil_iff]
  exact fun call _ => finishes?_tasks scope.document call

end Call

/-- **Circles among definitions do no harm.**  Following a reference is what its walk says, with the references inside
followed in the same way, and no bound on their depth is felt.  Whatever following does to the state, the walk through a
definition follows one reference after the other.  Whatever calls are made one after the other from the fresh state, the
first ones of them come to their end, in no more moments than they have tasks, together with those that definitions can
bring.  At every moment the definitions in progress are different ones of the document and none of them is finished, so
they are no more than there are definitions.  This is so inside the calls as well: a reference that is followed at a
moment has been followed at a later one, and the references inside a definition are followed at moments, each in the
state that the walk through the definition has come to.  The properties of a definition are walked at one moment at
most, whereas a moment that walks through no properties brings no tasks. -/
theorem calls_end_in_order (scope : Scope) (rules : NamingRules) (calls : List Call) :
    let first : Moment := ⟨.start, calls.flatMap (Call.tasks scope.document)⟩
    (∀ r, scope.follow r = scope.walkReference scope.follow r) ∧
    (∀ follow key definition, (∀ r s, (follow r s).1 = (scope.follow r s).1) →
      scope.walkDefinition follow key definition = (do
        scope.walkMembers follow key definition
        followEach follow ((scope.document.argumentKeys key).map (definitionsHead ++ ·)))) ∧
    (∀ before after, calls = before ++ after →
      ∃ n ≤ scope.owed .start + (before.flatMap (Call.tasks scope.document)).length,
        scope.moment first n = ⟨((before.forM (Call.walk scope rules)) .start).2,
          after.flatMap (Call.tasks scope.document)⟩) ∧
    (∀ n, (scope.moment first n).state.inProgress.Nodup ∧
      (∀ key ∈ (scope.moment first n).state.inProgress, key ∈ scope.document.definitions.keys ∧
        key ∉ (scope.moment first n).state.resolved) ∧
      (scope.moment first n).state.depth ≤ scope.document.definitions.keys.length) ∧
    (∀ n s r ts, scope.moment first n = ⟨s, .follow r :: ts⟩ →
      ∃ m, n < m ∧ scope.moment first m = ⟨(scope.follow r s).2, ts⟩) ∧
    (∀ n key, scope.opens? (scope.moment first n) = some key →
      ∃ definition ts, scope.document.definitions.get? key = some definition ∧
        scope.moment first (n + 1) = ⟨(scope.moment first n).state.enter key,
          followAll (memberReferences key definition) ++ ts⟩ ∧
        ∀ r t, scope.FollowsInside key definition (scope.moment first n).state r t →
          ∃ m us, n < m ∧ scope.moment first m = ⟨t, .follow r :: us⟩) ∧
    (∀ n, scope.opens? (scope.moment first n) = none →
      (scope.moment first (n + 1)).tasks = (scope.moment first n).tasks.tail) ∧
    (∀ i j key, scope.opens? (scope.moment first i) = some key →
      scope.opens? (scope.moment first j) = some key → i = j) := by
  intro first
  refine ⟨scope.follow_eq, fun follow key definition hfollow => ?_, ?_, fun n => ?_,
    fun n s r ts => Scope.exists_moment_followed, fun n key hopens => ?_, fun n hopens => ?_,
    fun i j key hi hj => Scope.opens?_unique hi hj⟩
  · exact scope.walkDefinition_eq follow key definition fun r s => by rw [hfollow, Scope.follow_apply]
  · rintro before after rfl
    rw [Call.walk_apply]
    have hparts : first.tasks = before.flatMap (Call.tasks scope.document) ++
        after.flatMap (Call.tasks scope.document) := List.flatMap_append
    have hfirst := scope.exists_moment_eq .start (before.flatMap (Call.tasks scope.document))
      (after.flatMap (Call.tasks scope.document))
    rwa [← hparts] at hfirst
  · have h := Call.orderly_moment scope calls n
    exact ⟨h.nodup, fun key hkey => ⟨h.known key hkey, h.apart key hkey⟩, h.depth_le⟩
  · obtain ⟨definition, ts, hdef, -, hnext⟩ := Scope.next_of_opens? hopens
    rw [Scope.brings, List.append_assoc] at hnext
    exact ⟨definition, _, hdef, hnext, fun r t hinside => Scope.exists_moment_followsInside hopens hdef hinside⟩
  · exact Scope.tasks_next_of_opens?_eq_none hopens

end ApiOutline
