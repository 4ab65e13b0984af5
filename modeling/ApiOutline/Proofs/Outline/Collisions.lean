import ApiOutline.Proofs.Outline.Models
import ApiOutline.Proofs.Resolution.Losses

/-!
# The collisions of an outline

The query parameters of a request want a model of their own.  Its name comes from the path alone, so requests may
want the same name, and so may definitions.  Whoever comes first gets it.  The loss of a model of query parameters is
recorded, whoever was first, and can be read off the outline afterwards: the model that is there under the name has
other properties.  The loss of the model of a definition is not recorded.

* `Outline.moment`: the moments of the run that an outline comes from.
* `Outline.mem_collisions_iff`: what is recorded when a model is lost.
* `Outline.unrecorded_loss`: a model that is lost without a trace.
* `Outline.model?_ofDocument`: the models of an outline by their names.
* `Outline.params_agree_or_collide`: query parameters and the models under their names.
-/

namespace ApiOutline

/-! ## Models by their names -/

theorem find?_name_eq_some_iff {models : List Model} (h : (models.map Model.name).Nodup) {name : String}
    {m : Model} : models.find? (fun m => m.name == name) = some m ↔ m ∈ models ∧ m.name = name := by
  constructor
  · intro hfind
    exact ⟨List.mem_of_find?_eq_some hfind,
      by simpa using List.find?_some (p := fun m : Model => m.name == name) hfind⟩
  · rintro ⟨hm, rfl⟩
    obtain ⟨m', hfind⟩ := Option.isSome_iff_exists.mp
      (List.find?_isSome (p := fun m' : Model => m'.name == m.name).mpr ⟨m, hm, by simp⟩)
    have hname : m'.name = m.name := by
      simpa using List.find?_some (p := fun m' : Model => m'.name == m.name) hfind
    rw [hfind, List.inj_on_of_nodup_map h (List.mem_of_find?_eq_some hfind) hm hname]

namespace Outline

variable {c : OutlineSettings} {d : Document}

/-- The models of an outline are those that the run has registered. -/
theorem model?_ofDocument (name : String) :
    (ofDocument c d).model? name = (progress c d).registry.get? name := by
  refine Option.ext fun m => ?_
  rw [model?, Registry.get?, find?_name_eq_some_iff (nodup_names_models c d),
    find?_name_eq_some_iff (progress c d).registry.nodup]
  exact and_congr_left' List.mem_mergeSort

/-! ## What requests record -/

/-- The only loss among the tasks of a request is that of the model of its query parameters. -/
theorem Request.flatMap_losses_tasks (d : Document) (final : Registry) (r : Request) :
    (r.tasks d).flatMap (Task.losses final) =
      (r.paramsModel? d).toList.flatMap fun m => Task.losses final (.offer r.path m) := by
  have hmissing : (r.operation.parameterTasks d r.path).flatMap (Task.losses final) = [] := by
    refine List.flatMap_eq_nil_iff.mpr fun t ht => ?_
    obtain ⟨target, -, rfl⟩ := List.mem_map.mp ht
    rfl
  have hdata : ∀ ps, (Operation.dataTasks r.path ps).flatMap (Task.losses final) = [] := by
    intro ps
    rw [Operation.dataTasks, List.flatMap_append, flatMap_losses_followAll, List.append_nil]
    split <;> rfl
  have hreturn : (r.operation.returnTasks d r.path).flatMap (Task.losses final) = [] := by
    rw [Operation.returnTasks, List.flatMap_append, flatMap_losses_followAll, List.nil_append]
    split <;> rfl
  rw [tasks, Operation.tasks, List.flatMap_append, List.flatMap_append, List.flatMap_append, hmissing, hdata,
    hreturn, List.append_nil, List.append_nil, List.nil_append, Operation.paramsTasks, List.flatMap_append,
    flatMap_losses_followAll, List.nil_append, List.flatMap_map]
  rfl

theorem filter_isCollision_opening (d : Document) :
    (opening d).diagnostics.filter Diagnostic.isCollision = [] := by
  refine List.filter_eq_nil_iff.mpr fun x hx => ?_
  obtain ⟨g, -, rfl⟩ := List.mem_map.mp hx
  simp [Diagnostic.isCollision, Diagnostic.referenceCycle]

/-- **The collisions of an outline.**  They are, in the order of the requests, those whose query parameters differ from
the model that is there under their name. -/
theorem collisions_eq (c : OutlineSettings) (d : Document) :
    (ofDocument c d).diagnostics.filter Diagnostic.isCollision =
      (requests c d).flatMap fun r => (r.paramsModel? d).toList.flatMap fun m =>
        Task.losses (progress c d).registry (.offer r.path m) := by
  have hrun := @Scope.collisions_run ⟨d, c.wrappers⟩ (opening d)
    ((requests c d).flatMap (Request.tasks d))
  rw [filter_isCollision_opening, List.nil_append, List.flatMap_assoc] at hrun
  simp only [Request.flatMap_losses_tasks] at hrun
  exact hrun

/-! ## What is recorded when a model is lost -/

/-- The moments of the run that an outline comes from. -/
def moment (c : OutlineSettings) (d : Document) (n : Nat) : Moment :=
  Scope.moment ⟨d, c.wrappers⟩ ⟨opening d, (requests c d).flatMap (Request.tasks d)⟩ n

/-- A request notes no collisions. -/
theorem Request.isCollision_eq_false_of_note {r : Request} {x : Diagnostic} (h : .note x ∈ r.tasks d) :
    x.isCollision = false := by
  simp only [tasks, Operation.tasks, Operation.parameterTasks, Operation.paramsTasks, Operation.dataTasks,
    Operation.returnTasks, followAll, List.mem_append, List.mem_map, reduceCtorEq, and_false, exists_false,
    or_false, false_or, Task.note.injEq] at h
  rcases h with (⟨target, -, rfl⟩ | h) | h
  · rfl
  · split at h
    · obtain rfl := Task.note.inj (List.mem_singleton.mp h)
      rfl
    · exact absurd h List.not_mem_nil
  · split at h
    · obtain rfl := Task.note.inj (List.mem_singleton.mp h)
      rfl
    · exact absurd h List.not_mem_nil

/-- When there is nothing left to do, the run is over. -/
theorem progress_eq_of_tasks_eq_nil {n : Nat} (h : (moment c d n).tasks = []) :
    progress c d = (moment c d n).state := by
  have hrun := Scope.run_moment ⟨d, c.wrappers⟩
    ⟨opening d, (requests c d).flatMap (Request.tasks d)⟩ n
  rw [show (Scope.moment ⟨d, c.wrappers⟩ _ n).tasks = [] from h, Scope.run_nil] at hrun
  exact hrun.symm

/-- **What is recorded when a model is lost.**  The collisions among the diagnostics of an outline are the losses of
models of query parameters, at whatever moment of the run; each is recorded under its path. -/
theorem mem_collisions_iff {x : Diagnostic} :
    x ∈ (ofDocument c d).diagnostics.filter Diagnostic.isCollision ↔
      ∃ n path lost, Scope.Discards ⟨d, c.wrappers⟩ (moment c d n) (.offer path lost) lost ∧
        x = .nameCollision path lost.name := by
  have hrun : x.isCollision = true → (x ∈ (ofDocument c d).diagnostics ↔ ∃ n path lost,
      Scope.Discards ⟨d, c.wrappers⟩ (moment c d n) (.offer path lost) lost ∧
        x = .nameCollision path lost.name) := by
    intro hx
    have hopening : x ∉ (opening d).diagnostics := fun hmem =>
      List.not_mem_nil (filter_isCollision_opening d ▸ List.mem_filter.mpr ⟨hmem, hx⟩)
    have hnote : .note x ∉ (requests c d).flatMap (Request.tasks d) := fun hmem => by
      obtain ⟨r, -, hmem⟩ := List.mem_flatMap.mp hmem
      exact absurd (Request.isCollision_eq_false_of_note hmem) (by simp [hx])
    exact (Scope.mem_collisions_run hx).trans
      ((or_iff_right hopening).trans (or_iff_right hnote))
  rw [List.mem_filter]
  constructor
  · rintro ⟨hmem, hx⟩
    exact (hrun hx).mp hmem
  · rintro ⟨n, path, lost, hlost, rfl⟩
    exact ⟨(hrun rfl).mpr ⟨n, path, lost, hlost, rfl⟩, rfl⟩

/-! ## A model that is lost without a trace -/

/-- A document with a path that has one query parameter.  Its response is described by the definition that has the
name of the model of the query parameters. -/
def pagedList : Document :=
  let status : Schema := { Schema.blank with type := some "string" }
  let answer : Schema := { Schema.blank with reference := some "#/definitions/ListParams" }
  let operation : Operation :=
    { Operation.blank with
      parameters := [.inline ⟨"page", .query, none, false, some "integer", none, none, none⟩]
      responses := Dict.empty.insert "200" (.inline none (some answer)) }
  { Document.blank with
    paths := Dict.empty.insert "/user/list" ⟨some operation, none, none, none, none, none, none⟩
    definitions := Dict.empty.insert "ListParams" { Schema.blank with properties := [("status", status)] } }

/-- The model of the definition that has the name of the model of the query parameters. -/
def statusModel : Model :=
  ⟨"ListParams", "ListParams", none, [⟨"status", none, .scalar .string, false⟩]⟩

/-- The query parameters come first, and the model of the definition is lost. -/
theorem discards_statusModel :
    Scope.Discards ⟨pagedList, defaultWrappers⟩ (moment .default pagedList 2) (.finish "ListParams") statusModel where
  next := by decide +kernel
  wanted := by decide +kernel
  taken := ⟨⟨"ListParams", "ListParams", none, [⟨"page", none, .scalar .number, false⟩]⟩, by decide +kernel,
    by decide +kernel⟩

/-- **A model of a definition is lost without a trace.** -/
theorem unrecorded_loss : ¬ ∀ (c : OutlineSettings) (d : Document) (n : Nat) (t : Task) (lost : Model),
    Scope.Discards ⟨d, c.wrappers⟩ (moment c d n) t lost →
    ∃ subject, .nameCollision subject lost.name ∈ (ofDocument c d).diagnostics := by
  intro h
  obtain ⟨subject, hmem⟩ := h .default pagedList 2 _ _ discards_statusModel
  have hend : (moment .default pagedList 3).tasks = [] := by decide +kernel
  have hfilter : Diagnostic.nameCollision subject statusModel.name ∈
      (ofDocument .default pagedList).diagnostics.filter Diagnostic.isCollision :=
    List.mem_filter.mpr ⟨hmem, rfl⟩
  rw [collisions_eq, progress_eq_of_tasks_eq_nil hend] at hfilter
  have hnone : ((requests .default pagedList).flatMap fun r => (r.paramsModel? pagedList).toList.flatMap fun m =>
      Task.losses (moment .default pagedList 3).state.registry (.offer r.path m)) = [] := by
    decide +kernel
  rw [hnone] at hfilter
  exact absurd hfilter List.not_mem_nil

/-! ## Query parameters and their models -/

/-- The query parameters of a request, as properties. -/
def Request.queryProperties (d : Document) (r : Request) : List Property :=
  (Operation.queryParameters (r.operation.parametersIn d)).map (Operation.queryProperty d)

theorem Request.properties_of_paramsModel? {r : Request} {m : Model} (h : r.paramsModel? d = some m) :
    m.properties = r.queryProperties d := by
  unfold paramsModel? Operation.paramsModel? at h
  rw [queryProperties]
  split at h
  · exact absurd h (by simp)
  · next query hquery =>
    obtain rfl := Option.some.inj h
    rfl

theorem Request.paramsType_endpoint (c : OutlineSettings) (d : Document) (r : Request) :
    (r.endpoint c d).paramsType = (r.paramsModel? d).map fun m => .model m.name := by
  show (Option.map _ (Option.map _ _)) = _
  rw [Option.map_map]
  rfl

/-- A request differs from an outline: it has query parameters, but the model under their name does not have them as
its properties. -/
def Request.DiffersFrom (c : OutlineSettings) (d : Document) (o : Outline) (r : Request) : Prop :=
  ∃ name, (r.endpoint c d).paramsType = some (.model name) ∧
    (o.model? name).map Model.properties ≠ some (r.queryProperties d)

theorem Request.differsFrom_iff {o : Outline} {r : Request} : r.DiffersFrom c d o ↔
    ∃ m, r.paramsModel? d = some m ∧ (o.model? m.name).map Model.properties ≠ some m.properties := by
  simp only [DiffersFrom, paramsType_endpoint, Option.map_eq_some_iff, TypeExpr.model.injEq]
  constructor
  · rintro ⟨_, ⟨m, hm, rfl⟩, hne⟩
    exact ⟨m, hm, by rwa [properties_of_paramsModel? hm]⟩
  · rintro ⟨m, hm, hne⟩
    exact ⟨m.name, ⟨m, hm, rfl⟩, by rwa [← properties_of_paramsModel? hm]⟩

instance (o : Outline) (r : Request) : Decidable (r.DiffersFrom c d o) :=
  decidable_of_iff (∃ m ∈ r.paramsModel? d, (o.model? m.name).map Model.properties ≠ some m.properties)
    Request.differsFrom_iff.symm

theorem length_flatMap_eq_countP {α β : Type} {f : α → List β} {p : α → Prop} [DecidablePred p] {l : List α}
    (h : ∀ a ∈ l, (f a).length = if p a then 1 else 0) : (l.flatMap f).length = l.countP fun a => decide (p a) := by
  induction l with
  | nil => rfl
  | cons a l ih =>
    rw [List.flatMap_cons, List.length_append, h a List.mem_cons_self,
      ih fun b hb => h b (List.mem_cons_of_mem _ hb), List.countP_cons, Nat.add_comm]
    simp only [decide_eq_true_eq]

/-- A request records a collision if it differs from the outline, and none otherwise. -/
theorem Request.length_losses (r : Request) :
    ((r.paramsModel? d).toList.flatMap fun m =>
      Task.losses (progress c d).registry (.offer r.path m)).length =
        if r.DiffersFrom c d (ofDocument c d) then 1 else 0 := by
  simp only [differsFrom_iff, model?_ofDocument]
  cases hm : r.paramsModel? d with
  | none => simp
  | some m =>
    simp only [Option.toList_some, List.flatMap_singleton, Task.losses, Option.some.injEq, exists_eq_left']
    split <;> simp_all

/-- **Query parameters agree with their model, or there is a collision.**  Where an endpoint has query parameters, they
have the name of a model of the outline.  There is an endpoint for each request, and as many collisions as there are
requests whose query parameters are not the properties of the model that the outline has under their name. -/
theorem params_agree_or_collide (c : OutlineSettings) (d : Document) :
    (∀ e ∈ (ofDocument c d).endpoints, ∀ t, e.paramsType = some t →
      ∃ m ∈ (ofDocument c d).models, t = .model m.name) ∧
    (ofDocument c d).endpoints.Perm ((requests c d).map (Request.endpoint c d)) ∧
    (ofDocument c d).diagnostics.countP Diagnostic.isCollision =
      (requests c d).countP fun r => decide (r.DiffersFrom c d (ofDocument c d)) := by
  refine ⟨fun e he t ht => ?_, List.mergeSort_perm _ _, ?_⟩
  · obtain ⟨r, hr, rfl⟩ := List.mem_map.mp (List.mem_mergeSort.mp he)
    rw [Request.paramsType_endpoint] at ht
    obtain ⟨m, hm, rfl⟩ := Option.map_eq_some_iff.mp ht
    obtain ⟨m', hm', hname⟩ := exists_model_iff.mpr (Or.inr ⟨m, List.mem_filterMap.mpr ⟨r, hr, hm⟩, rfl⟩)
    exact ⟨m', hm', by rw [hname]⟩
  · rw [List.countP_eq_length_filter, collisions_eq]
    exact length_flatMap_eq_countP fun r _ => r.length_losses

end Outline

end ApiOutline
