import ApiOutline.Outline.Basic
import ApiOutline.Proofs.Outline.CycleSafety
import ApiOutline.Proofs.Resolution.Account

/-!
# What an outline records

The diagnostics of an outline are accounted for one by one, from the document and the settings alone: the cycles,
the missing references inside the definitions that can be reached, and what each request has to say for itself.
How often a definition is reached, and by which requests, does not matter.

* `Operation.references`: the references that an operation follows outside of any definition.
* `Operation.Unanswered`: the operations without a type for their response.
* `Operation.notes`: what is recorded of an operation.
* `Outline.progress_eq_walk`: the requests of an outline, as walks one after the other.
* `Outline.diagnostics_perm`: the main statement.
-/

namespace ApiOutline

namespace Operation

variable (d : Document) (path : String) (o : Operation)

/-! ## Requests without an answer -/

/-- The operations without a type for the response to a request that succeeds: it is absent, it has no schema, its
schema has no type, or it comes down to a reference whose type is unresolved. -/
inductive Unanswered : Prop where
  | absent (h : o.success? = none)
  | bare {description : Option String} (h : o.success? = some (.inline description none))
  | untyped {description : Option String} {schema : Schema}
    (h : o.success? = some (.inline description (some schema))) (htype : d.schemaType? schema = none)
  | missing {description : Option String} {schema : Schema} {r : String}
    (h : o.success? = some (.inline description (some schema)))
    (htype : d.schemaType? schema = some (.unresolved r))
  | missingTarget {target r : String} (h : o.success? = some (.reference target))
    (htype : d.referenceType target = .unresolved r)

theorem resolved?_eq_none_iff {e : TypeExpr} : resolved? e = none ↔ ∃ r, e = .unresolved r := by
  cases e <;> simp [resolved?]

/-- An operation is unanswered if and only if nothing is known of what it returns. -/
theorem unanswered_iff : o.Unanswered d ↔ (o.responseType? d).isNone = true := by
  rw [Option.isNone_iff_eq_none, responseType?, Option.bind_eq_none_iff]
  constructor
  · intro h e he
    refine resolved?_eq_none_iff.mpr ?_
    cases h with
    | absent h => simp [h, declaredResponse?] at he
    | bare h => simp [h, declaredResponse?] at he
    | untyped h htype => simp [h, declaredResponse?, htype] at he
    | @missing _ _ r h htype =>
      refine ⟨r, ?_⟩
      simpa [h, declaredResponse?, htype, eq_comm] using he
    | @missingTarget _ r h htype =>
      refine ⟨r, ?_⟩
      simpa [h, declaredResponse?, htype, eq_comm] using he
  · intro h
    cases hresponse : o.success? with
    | none => exact .absent hresponse
    | some response =>
      rw [hresponse] at h
      cases response with
      | reference target =>
        obtain ⟨r, hr⟩ := resolved?_eq_none_iff.mp (h _ rfl)
        exact .missingTarget hresponse hr
      | inline description schema =>
        cases schema with
        | none => exact .bare hresponse
        | some schema =>
          cases htype : d.schemaType? schema with
          | none => exact .untyped hresponse htype
          | some e =>
            obtain ⟨r, rfl⟩ := resolved?_eq_none_iff.mp (h e htype)
            exact .missing hresponse htype

instance : Decidable (o.Unanswered d) := decidable_of_iff _ (o.unanswered_iff d).symm

/-! ## What is recorded of an operation -/

/-- The references that an operation follows itself: those of the items of its query parameters, of the schema of
its first body parameter, and of its response. -/
def references : List String :=
  (queryParameters (o.parametersIn d)).flatMap (fun p => itemsReferences p.toSchema)
    ++ ((bodyParameters (o.parametersIn d)).head?.bind Parameter.schema).toList.flatMap schemaReferences
    ++ o.responseReferences

/-- What is recorded of an operation: the references that name no shared parameter, the references that name no
definition, several body parameters, and a response without a type. -/
def notes : List Diagnostic :=
  let bodies := (bodyParameters (o.parametersIn d)).length
  (o.missingParameters d).map (.unresolvedReference path)
    ++ d.missingNotes none (o.references d)
    ++ (if 1 < bodies then [.severalBodies path bodies] else [])
    ++ (if o.Unanswered d then [.missingResponse path] else [])

/-! ## What its tasks record -/

theorem pendingNotes_parameterTasks :
    d.pendingNotes (o.parameterTasks d path) = (o.missingParameters d).map (.unresolvedReference path) := by
  rw [parameterTasks, ← d.pendingNotes_map_note ((o.missingParameters d).map _), List.map_map]
  rfl

theorem pendingNotes_paramsTasks (operationName : String) (ps : List Parameter) :
    d.pendingNotes (o.paramsTasks d path operationName ps) =
      d.missingNotes none ((queryParameters ps).flatMap fun p => itemsReferences p.toSchema) := by
  have hoffers : ∀ ms : List Model, d.pendingNotes (ms.map (.offer path)) = [] := by
    intro ms
    induction ms with
    | nil => rfl
    | cons m ms ih => exact ih
  rw [paramsTasks, d.pendingNotes_append (Call.finishes?_map (fun _ => rfl) _), hoffers, List.append_nil,
    d.pendingNotes_followAll]

theorem pendingNotes_dataTasks (ps : List Parameter) :
    d.pendingNotes (dataTasks path ps) =
      (if 1 < (bodyParameters ps).length then [.severalBodies path (bodyParameters ps).length] else [])
        ++ d.missingNotes none
          (((bodyParameters ps).head?.bind Parameter.schema).toList.flatMap schemaReferences) := by
  rw [dataTasks, d.pendingNotes_append (finishes?_followAll _), d.pendingNotes_followAll]
  by_cases h : 1 < (bodyParameters ps).length
  · rw [if_pos h, if_pos h]
    rfl
  · rw [if_neg h, if_neg h]
    rfl

theorem pendingNotes_returnTasks :
    d.pendingNotes (o.returnTasks d path) = d.missingNotes none o.responseReferences
      ++ if o.Unanswered d then [.missingResponse path] else [] := by
  rw [returnTasks, d.pendingNotes_followAll_append]
  by_cases h : o.Unanswered d
  · rw [if_pos h, if_pos ((o.unanswered_iff d).mp h)]
    rfl
  · rw [if_neg h, if_neg fun hnone => h ((o.unanswered_iff d).mpr hnone)]
    rfl

/-- **What the tasks of an operation record is what is recorded of the operation**, in another order. -/
theorem pendingNotes_tasks_perm : (d.pendingNotes (o.tasks d path)).Perm (o.notes d path) := by
  have hdata := Call.finishes?_dataTasks path (o.parametersIn d)
  have hreturn := Call.finishes?_returnTasks d path o
  have hparams := Call.finishes?_paramsTasks d path (Naming.operationName path) o (o.parametersIn d)
  rw [tasks, d.pendingNotes_append hreturn, d.pendingNotes_append hdata, d.pendingNotes_append hparams,
    pendingNotes_parameterTasks, pendingNotes_paramsTasks, pendingNotes_dataTasks, pendingNotes_returnTasks]
  simp only [notes, references, d.missingNotes_append, List.append_assoc]
  -- the note of several bodies stands before the missing references of the first one
  refine (List.Perm.append_left _ (List.Perm.append_left _ ?_))
  exact (List.perm_append_comm_assoc _ _ _).trans
    (List.Perm.append_left _ (List.perm_append_comm_assoc _ _ _))

/-- The tasks of an operation follow its references. -/
theorem mem_follow_tasks {r : String} : .follow r ∈ o.tasks d path ↔ r ∈ o.references d := by
  simp [tasks, parameterTasks, paramsTasks, dataTasks, returnTasks, references]

end Operation

namespace Outline

variable (c : OutlineSettings) (d : Document)

/-! ## All requests -/

/-- The references that the requests follow outside of any definition. -/
def references : List String :=
  (requests c d).flatMap fun r => r.operation.references d

/-- What is recorded of a request. -/
def Request.notes (r : Request) : List Diagnostic :=
  r.operation.notes d r.path

/-- The state after all requests is what the walks through them, one after the other, leave behind. -/
theorem progress_eq_walk : progress c d =
    (((requests c d).forM fun r => discard (r.operation.build ⟨d, c.wrappers⟩ c.naming r.path r.verb))
      (opening d)).2 := by
  let scope : Scope := ⟨d, c.wrappers⟩
  have hbuild : ∀ r ∈ requests c d, scope.Performs (scope.unmet (opening d) + 1)
      (discard (r.operation.build scope c.naming r.path r.verb)) () (r.tasks d) :=
    fun r _ => (Operation.performs_build c.naming r.path r.verb r.operation).discard
  rw [Scope.Performs.forM hbuild (opening d) (Nat.lt_succ_self _)]
  rfl

theorem Request.finishes?_tasks (d : Document) (rs : List Request) :
    (rs.flatMap (Request.tasks d)).filterMap Task.finishes? = [] := by
  rw [List.filterMap_flatMap, List.flatMap_eq_nil_iff]
  exact fun r _ => Call.finishes?_tasks d (.build r.path r.verb r.operation)

theorem Request.pendingNotes_tasks_perm (d : Document) (rs : List Request) :
    (d.pendingNotes (rs.flatMap (Request.tasks d))).Perm (rs.flatMap (Request.notes d)) := by
  induction rs with
  | nil => exact .refl _
  | cons r rs ih =>
    rw [List.flatMap_cons, List.flatMap_cons, d.pendingNotes_append (finishes?_tasks d rs)]
    exact (r.operation.pendingNotes_tasks_perm d r.path).append ih

theorem mem_follow_tasks {r : String} :
    .follow r ∈ (requests c d).flatMap (Request.tasks d) ↔ r ∈ references c d := by
  simp only [List.mem_flatMap, Request.tasks, Operation.mem_follow_tasks, references]

theorem orderly_opening : Orderly d ⟨opening d, (requests c d).flatMap (Request.tasks d)⟩ :=
  (Orderly.start d (Request.finishes?_tasks d _)).congr rfl rfl rfl

theorem not_met_opening (key : String) : ¬ (opening d).met key = true :=
  Progress.met_start key

/-- **The definitions that an outline meets are those that its requests lead to.** -/
theorem met_progress_iff (key : String) :
    (progress c d).met key = true ↔ d.Reachable (references c d) key :=
  @Scope.met_run_iff_reachable ⟨d, c.wrappers⟩ _ _ _ (not_met_opening d) (orderly_opening c d)
    (fun _ => mem_follow_tasks c d) key

theorem Request.filter_notes (r : Request) :
    ((r.notes d).filter fun x => !x.isCollision) = r.notes d := by
  have hmissing : ∀ (f : String → String) (rs : List String),
      ((rs.map fun r => Diagnostic.unresolvedReference (f r) r).filter fun x => !x.isCollision) =
        rs.map fun r => Diagnostic.unresolvedReference (f r) r := by
    intro f rs
    refine List.filter_eq_self.mpr fun x hx => ?_
    obtain ⟨r, -, rfl⟩ := List.mem_map.mp hx
    rfl
  simp only [notes, Operation.notes, Document.missingNotes, List.filter_append, hmissing]
  congr 2
  · split <;> rfl
  · split <;> rfl

/-! ## The account -/

/-- **The account of an outline.**  Apart from losses of names, the diagnostics of an outline are, in some order: the
cycle groups of the document; for each definition that the requests lead to, be it from how many places, one for each
reference of its properties that names no definition, under its key; and for each request, under its path, one for
each reference that names no shared parameter, one if it has several body parameters and one if it is unanswered, and,
under the reference itself, one for each reference it follows outside of any definition that names none. -/
theorem diagnostics_perm :
    ((ofDocument c d).diagnostics.filter fun x => !x.isCollision).Perm
      ((d.cycles.map fun g => .referenceCycle g.members)
        ++ ((d.definitions.entries.filter fun p => decide (d.Reachable (references c d) p.1)).flatMap
          fun p => d.definitionNotes p.1 p.2)
        ++ (requests c d).flatMap (Request.notes d)) := by
  have hrun := @Scope.diagnostics_run_perm ⟨d, c.wrappers⟩ _ _ _ (not_met_opening d)
    (orderly_opening c d) fun _ => mem_follow_tasks c d
  have hcycles : ((opening d).diagnostics.filter fun x => !x.isCollision) =
      d.cycles.map fun g => .referenceCycle g.members := by
    refine List.filter_eq_self.mpr fun x hx => ?_
    obtain ⟨g, -, rfl⟩ := List.mem_map.mp hx
    rfl
  have hrequests := (Request.pendingNotes_tasks_perm d (requests c d)).filter fun x => !x.isCollision
  rw [List.filter_flatMap] at hrequests
  simp only [Request.filter_notes] at hrequests
  rw [List.filter_append, hcycles] at hrun
  refine hrun.trans ?_
  rw [List.append_assoc, List.append_assoc]
  exact ((hrequests.append_right _).trans List.perm_append_comm).append_left _

end Outline

end ApiOutline
