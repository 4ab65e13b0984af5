import ApiOutline.Document.Codec
import ApiOutline.Proofs.Model.Registry
import ApiOutline.Proofs.Outline.Accounting
import ApiOutline.Proofs.Resolution.Mentions

/-!
# The models that the types of an outline mention

Generated code imports every model that a type mentions, so each of them should be among the models of the outline.
The models of an outline are those of the definitions that its requests lead to and those of query parameters.  A type
mentions what the keys of such definitions mention.  A name in a key stands for a model if it is the key of a
definition itself, since the definitions named in a key are followed, or if it is the name of a model that is there
for another reason.

A name in a key that is no key, but only the beginning of one, is not followed: the type argument `Box«Order»` of
`Page«Box«Order»»` leads to `Order` and not to `Box«Order»`.

* `Outline.exists_model_iff`: the names of the models of an outline.
* `Outline.types`: the types in an outline.
* `Outline.exists_model_of_mem_modelNames`: no model that they mention is missing, as long as the names in keys are
  accounted for.
* `Outline.missing_model_of_nested`: a nested type argument whose model is missing.
-/

namespace ApiOutline

namespace Scope

variable {scope : Scope} {s : Progress} {ts : List Task}

/-! ## Names that are given away -/

theorem contains_offer (s : Progress) (path : String) (m : Model) :
    (offer s path m).registry.contains m.name = true := by
  unfold offer
  split
  · next existing hget =>
    have hcontains : s.registry.contains m.name = true := by
      rw [Registry.contains_eq_isSome_get?, hget, Option.isSome_some]
    split <;> exact hcontains
  · exact (Registry.contains_add s.registry m m.name).mpr (Or.inr rfl)

theorem contains_run {name : String} (h : s.registry.contains name = true) (ts : List Task) :
    (scope.run s ts).registry.contains name = true :=
  scope.run_of_advance (P := fun s => s.registry.contains name = true) (fun _ _ h => contains_advance h) h ts

/-- The name of a model that is offered is taken at the end, by that model or by another one. -/
theorem contains_run_of_offer {path : String} {m : Model} (h : .offer path m ∈ ts) :
    (scope.run s ts).registry.contains m.name = true := by
  induction s, ts using Scope.run.induct scope with
  | case1 s => exact absurd h List.not_mem_nil
  | case2 s t ts ih =>
    rw [run_cons]
    rcases List.mem_cons.mp h with rfl | h
    · exact contains_run (contains_offer s path m) _
    · exact ih (List.mem_append_right _ h)

end Scope

namespace Outline

variable (c : OutlineSettings) (d : Document)

/-! ## The models of an outline -/

/-- The model of the query parameters of a request, if there are any. -/
def Request.paramsModel? (r : Request) : Option Model :=
  r.operation.paramsModel? d (Naming.operationName r.path) (r.operation.parametersIn d)

/-- The models of query parameters that an outline asks for. -/
def paramsModels : List Model :=
  (requests c d).filterMap (Request.paramsModel? d)

variable {c d}

theorem exists_offer_iff {m : Model} :
    (∃ path, .offer path m ∈ (requests c d).flatMap (Request.tasks d)) ↔ m ∈ paramsModels c d := by
  have hoffer : ∀ (r : Request) (path : String), .offer path m ∈ r.tasks d ↔
      r.paramsModel? d = some m ∧ r.path = path := by
    intro r path
    simp [Request.tasks, Operation.tasks, Operation.parameterTasks, Operation.paramsTasks,
      Operation.dataTasks, Operation.returnTasks, Request.paramsModel?, followAll]
  simp only [List.mem_flatMap, hoffer, paramsModels, List.mem_filterMap]
  constructor
  · rintro ⟨_, r, hr, hm, -⟩
    exact ⟨r, hr, hm⟩
  · rintro ⟨r, hr, hm⟩
    exact ⟨r.path, r, hr, hm, rfl⟩

/-- A model of an outline is the one of a definition that the requests lead to, or one of query parameters. -/
theorem mem_models {m : Model} (h : m ∈ (ofDocument c d).models) :
    m ∈ paramsModels c d ∨ ∃ key definition, d.Reachable (references c d) key ∧
      d.definitions.get? key = some definition ∧ m = Scope.model ⟨d, c.wrappers⟩ key definition ∧
        Builtin.isName (modelName key) = false := by
  have hmem : m ∈ (progress c d).registry.models := List.mem_mergeSort.mp h
  rcases Scope.mem_models_run _ hmem with hstart | hoffer | ⟨key, definition, hget, hm, hbuiltin, hmet⟩
  · exact absurd hstart List.not_mem_nil
  · exact Or.inl (exists_offer_iff.mp hoffer)
  · exact Or.inr ⟨key, definition, (met_progress_iff c d key).mp hmet, hget, hm, hbuiltin⟩

theorem nodup_names_models (c : OutlineSettings) (d : Document) :
    ((ofDocument c d).models.map Model.name).Nodup :=
  (progress c d).registry.nodup_names_sorted

theorem contains_progress_iff {name : String} :
    (progress c d).registry.contains name = true ↔ ∃ m ∈ (ofDocument c d).models, m.name = name := by
  rw [Registry.contains, List.any_eq_true]
  simp only [ofDocument, Registry.sorted, List.mem_mergeSort, beq_iff_eq]

/-- **The names of the models of an outline.**  They are the model names of the definitions that the requests lead to,
builtins apart, and the names of the models of query parameters. -/
theorem exists_model_iff {name : String} : (∃ m ∈ (ofDocument c d).models, m.name = name) ↔
    (∃ key, d.Reachable (references c d) key ∧ modelName key = name ∧ Builtin.isName name = false) ∨
      ∃ m ∈ paramsModels c d, m.name = name := by
  constructor
  · rintro ⟨m, hm, rfl⟩
    rcases mem_models hm with hparams | ⟨key, definition, hkey, -, rfl, hbuiltin⟩
    · exact Or.inr ⟨m, hparams, rfl⟩
    · exact Or.inl ⟨key, hkey, rfl, hbuiltin⟩
  · rw [← contains_progress_iff]
    rintro (⟨key, hkey, rfl, hbuiltin⟩ | ⟨m, hm, rfl⟩)
    · have hend : Scope.Complete ⟨d, c.wrappers⟩ (references c d) ⟨progress c d, []⟩ :=
        Scope.complete_run (not_met_opening d) (orderly_opening c d) fun _ hr => (mem_follow_tasks c d).mpr hr
      exact (hend.registered key (hend.met_of_reachable hkey) hkey.isSome_definition
        hbuiltin).resolve_right List.not_mem_nil
    · obtain ⟨path, hoffer⟩ := exists_offer_iff.mpr hm
      exact Scope.contains_run_of_offer hoffer

/-! ## The types in an outline -/

end Outline

/-- The types of an endpoint: of what is received, and of what is sent. -/
def Endpoint.types (e : Endpoint) : List TypeExpr :=
  e.returnType :: (e.dataType.toList ++ e.paramsType.toList)

/-- The types of the properties of a model. -/
def Model.types (m : Model) : List TypeExpr :=
  m.properties.map Property.type

namespace Outline

/-- The types of the endpoints and of the models of an outline. -/
def types (o : Outline) : List TypeExpr :=
  o.endpoints.flatMap Endpoint.types ++ o.models.flatMap Model.types

variable (c : OutlineSettings) (d : Document)

/-- Every name in the key of a definition that the requests lead to is accounted for, if it is not one of a
builtin: it is the key of a definition, or the model name of another one that the requests lead to. -/
def NamesAccounted : Prop :=
  ∀ key, d.Reachable (references c d) key → ∀ n ∈ keyNames key, Builtin.isName n = false →
    (d.definitions.get? n).isSome = true ∨ ∃ key', d.Reachable (references c d) key' ∧ modelName key' = n

variable {c d}

/-- The models that the key of a definition mentions are there. -/
theorem exists_model_of_mem_parse (h : NamesAccounted c d) {key n : String}
    (hkey : d.Reachable (references c d) key) (hn : n ∈ (TypeExpr.parse none key).modelNames) :
    ∃ m ∈ (ofDocument c d).models, m.name = n := by
  have hname := TypeExpr.modelName_of_mem_parse hn
  have hbuiltin : Builtin.isName n = false := by simp [Builtin.isName, hname.foreign]
  refine exists_model_iff.mpr (Or.inl ?_)
  rcases h key hkey n (mem_keyNames_of_mem_parse hn) hbuiltin with hget | ⟨key', hkey', hmodel⟩
  · by_cases hself : n = modelName key
    · exact ⟨key, hkey, hself.symm, hbuiltin⟩
    · exact ⟨n, .argument hkey hn hself hget, modelName_of_tidy hname.tidy_of_none, hbuiltin⟩
  · exact ⟨key', hkey', hmodel, hbuiltin⟩

/-- The models of a type that is put together from references which the requests lead to are there. -/
theorem exists_model_of_built (h : NamesAccounted c d) {rs : List String} {e : TypeExpr}
    (he : d.Built rs e) (hrs : ∀ r ∈ rs, (d.definition? r).isSome = true →
      d.Reachable (references c d) (refKey r)) {n : String} (hn : n ∈ e.modelNames) :
    ∃ m ∈ (ofDocument c d).models, m.name = n := by
  obtain ⟨r, hr, hn⟩ := he.drawnFrom n hn
  cases hdef : d.definition? r with
  | none =>
    rw [Document.referenceType, hdef] at hn
    exact absurd hn List.not_mem_nil
  | some definition =>
    rw [Document.referenceType, hdef] at hn
    exact exists_model_of_mem_parse h (hrs r hr (by rw [hdef]; rfl)) hn

end Outline

/-! ## The types of operations -/

namespace Operation

variable {d : Document} {operationName : String} {ps : List Parameter} {o : Operation}

/-- What an operation returns is put together from its response. -/
theorem built_returnType (d : Document) (o : Operation) : d.Built o.responseReferences (o.returnType d) := by
  unfold returnType responseType?
  cases hdeclared : declaredResponse? d o.success? with
  | none => exact .void
  | some e =>
    have he : d.Built o.responseReferences e := by
      unfold responseReferences
      cases hresponse : o.success? with
      | none =>
        rw [hresponse] at hdeclared
        exact absurd hdeclared (by simp [declaredResponse?])
      | some response =>
        rw [hresponse] at hdeclared
        cases response with
        | reference target =>
          obtain rfl := Option.some.inj hdeclared
          exact .reference List.mem_cons_self
        | inline description schema => exact Document.built_schema? hdeclared
    cases e with
    | unresolved r => exact .void
    | _ => exact he

/-- What is sent in the body is put together from the first body parameter. -/
theorem built_dataType {e : TypeExpr} (h : (dataArgument? d ps).bind Argument.type = some e) :
    d.Built (((bodyParameters ps).head?.bind Parameter.schema).toList.flatMap schemaReferences) e := by
  obtain ⟨argument, hargument, htype⟩ := Option.bind_eq_some_iff.mp h
  obtain ⟨p, hp, rfl⟩ := Option.map_eq_some_iff.mp hargument
  rw [hp]
  exact Document.built_schema? htype

/-- The model of query parameters has their name and a property for each of them. -/
theorem paramsModel?_eq_some {m : Model} (h : o.paramsModel? d operationName ps = some m) :
    m.name = paramsName operationName ∧ m.properties = (queryParameters ps).map (queryProperty d) := by
  unfold paramsModel? at h
  split at h
  · exact absurd h (by simp)
  · obtain rfl := Option.some.inj h
    exact ⟨rfl, rfl⟩

/-- Query parameters are put together from their items. -/
theorem built_paramsModel {m : Model} (h : o.paramsModel? d operationName ps = some m) {p : Property}
    (hp : p ∈ m.properties) :
    d.Built ((queryParameters ps).flatMap fun p => itemsReferences p.toSchema) p.type := by
  rw [(paramsModel?_eq_some h).2] at hp
  obtain ⟨q, hq, rfl⟩ := List.mem_map.mp hp
  exact (d.built_items q.toSchema).mono fun _ hr => List.mem_flatMap.mpr ⟨q, hq, hr⟩

end Operation

namespace Outline

variable {c : OutlineSettings} {d : Document}

theorem reachable_of_mem_references {r : Request} (hr : r ∈ requests c d) {rs : List String}
    (hsub : rs ⊆ r.operation.references d) : ∀ target ∈ rs, (d.definition? target).isSome = true →
      d.Reachable (references c d) (refKey target) := fun _ htarget hdef =>
  .root (List.mem_flatMap.mpr ⟨r, hr, hsub htarget⟩) hdef

/-- The models that an endpoint mentions are there. -/
theorem exists_model_of_mem_endpoint (h : NamesAccounted c d) {r : Request} (hr : r ∈ requests c d)
    {e : TypeExpr} (he : e ∈ (r.endpoint c d).types) {n : String} (hn : n ∈ e.modelNames) :
    ∃ m ∈ (ofDocument c d).models, m.name = n := by
  rcases List.mem_cons.mp he with rfl | he
  · refine exists_model_of_built h (r.operation.built_returnType d)
      (reachable_of_mem_references hr ?_) hn
    exact List.subset_append_right _ _
  rcases List.mem_append.mp he with he | he
  · refine exists_model_of_built h (Operation.built_dataType (Option.mem_toList.mp he))
      (reachable_of_mem_references hr ?_) hn
    exact List.Subset.trans (List.subset_append_right _ _) (List.subset_append_left _ _)
  · obtain ⟨argument, hargument, rfl⟩ := Option.map_eq_some_iff.mp (Option.mem_toList.mp he)
    obtain ⟨m, hm, rfl⟩ := Option.map_eq_some_iff.mp hargument
    refine exists_model_iff.mpr (Or.inr ⟨m, List.mem_filterMap.mpr ⟨r, hr, hm⟩, ?_⟩)
    exact (List.mem_singleton.mp hn).symm

/-- The models that a model mentions are there. -/
theorem exists_model_of_mem_model (h : NamesAccounted c d) {m : Model}
    (hm : m ∈ (ofDocument c d).models) {p : Property} (hp : p ∈ m.properties) {n : String}
    (hn : n ∈ p.type.modelNames) : ∃ m ∈ (ofDocument c d).models, m.name = n := by
  rcases mem_models hm with hparams | ⟨key, definition, hkey, hget, rfl, -⟩
  · obtain ⟨r, hr, hmodel⟩ := List.mem_filterMap.mp hparams
    refine exists_model_of_built h (Operation.built_paramsModel hmodel hp)
      (reachable_of_mem_references hr ?_) hn
    exact List.Subset.trans (List.subset_append_left _ _) (List.subset_append_left _ _)
  · refine exists_model_of_built h (Scope.built_model ⟨d, c.wrappers⟩ key definition hp) ?_ hn
    exact fun r hr hdef => .member hkey hget hr hdef

/-! ## Documents with one request -/

/-- A document with one request, which is answered by the definition with the key `answer`, and definitions that say
nothing. -/
def answeredBy (answer : String) (keys : List String) (hkeys : keys.Nodup) : Document :=
  let schema : Schema := { Schema.blank with reference := some (definitionsHead ++ answer) }
  let operation : Operation :=
    { Operation.blank with responses := Dict.empty.insert "200" (.inline none (some schema)) }
  { Document.blank with
    paths := Dict.empty.insert "/orders" ⟨some operation, none, none, none, none, none, none⟩
    definitions := ⟨keys.map fun key => (key, .blank), by simpa [keysOf, Function.comp_def] using hkeys⟩ }

section

variable {answer : String} {keys : List String} {hkeys : keys.Nodup}

theorem references_answeredBy :
    references .default (answeredBy answer keys hkeys) = [definitionsHead ++ answer] := rfl

theorem keys_answeredBy : (answeredBy answer keys hkeys).definitions.keys = keys := by
  simp [answeredBy, Dict.keys, keysOf, Function.comp_def]

theorem eq_blank_of_answeredBy {key : String} {definition : Schema}
    (h : (answeredBy answer keys hkeys).definitions.get? key = some definition) : definition = .blank := by
  obtain ⟨_, -, hentry⟩ := List.mem_map.mp (mem_of_lookup h)
  exact (Prod.mk.inj hentry).2.symm

theorem mem_keys_of_reachable {roots : List String} {key : String}
    (h : (answeredBy answer keys hkeys).Reachable roots key) : key ∈ keys := by
  have hmem := h.mem_keys
  rwa [keys_answeredBy] at hmem

/-- The request leads to its answer, and to what is named in keys and is a key. -/
theorem reachable_answeredBy {key : String}
    (h : (answeredBy answer keys hkeys).Reachable (references .default (answeredBy answer keys hkeys)) key) :
    key = answer ∨ ∃ outer ∈ keys, key ∈ (TypeExpr.parse none outer).modelNames := by
  cases h with
  | root hr _ =>
    rw [references_answeredBy, List.mem_singleton] at hr
    rw [hr, refKey_definitionsHead_append]
    exact Or.inl rfl
  | member _ hget hr _ =>
    rw [eq_blank_of_answeredBy hget] at hr
    exact absurd hr List.not_mem_nil
  | @argument outer _ houter hname _ _ => exact Or.inr ⟨outer, mem_keys_of_reachable houter, hname⟩

end

/-! ## Nothing is missing -/

/-- **No model is missing.**  If every name in the key of a definition that the requests lead to is accounted for,
every model that a type of the outline mentions is a model of the outline. -/
theorem exists_model_of_mem_modelNames (h : NamesAccounted c d) :
    ∀ e ∈ (ofDocument c d).types, ∀ n ∈ e.modelNames, ∃ m ∈ (ofDocument c d).models, m.name = n := by
  intro e he n hn
  rcases List.mem_append.mp he with he | he
  · obtain ⟨endpoint, hendpoint, he⟩ := List.mem_flatMap.mp he
    obtain ⟨r, hr, rfl⟩ := List.mem_map.mp (List.mem_mergeSort.mp hendpoint)
    exact exists_model_of_mem_endpoint h hr he hn
  · obtain ⟨m, hm, he⟩ := List.mem_flatMap.mp he
    obtain ⟨p, hp, rfl⟩ := List.mem_map.mp he
    exact exists_model_of_mem_model h hm hp hn

/-- Pages of orders. -/
def pagesOfOrders : Document :=
  answeredBy "Page«Order»" ["Page«Order»", "Order"] (by decide)

theorem namesAccounted_pagesOfOrders : NamesAccounted .default pagesOfOrders := by
  intro key hkey n hn _
  have hnames : ∀ key ∈ ["Page«Order»", "Order"], ∀ n ∈ keyNames key, n = "Page" ∨ n = "Order" := by
    decide +kernel
  rcases hnames key (mem_keys_of_reachable hkey) n hn with rfl | rfl
  · have hroot : pagesOfOrders.Reachable (references .default pagesOfOrders)
        (refKey (definitionsHead ++ "Page«Order»")) :=
      .root List.mem_cons_self (by decide +kernel)
    exact Or.inr ⟨_, hroot, by decide +kernel⟩
  · exact Or.inl (by decide +kernel)

/-- No model is missing from the outline of pages of orders. -/
theorem exists_model_of_pagesOfOrders : NamesAccounted .default pagesOfOrders ∧
    ∀ e ∈ (ofDocument .default pagesOfOrders).types, ∀ n ∈ e.modelNames,
      ∃ m ∈ (ofDocument .default pagesOfOrders).models, m.name = n :=
  ⟨namesAccounted_pagesOfOrders, exists_model_of_mem_modelNames namesAccounted_pagesOfOrders⟩

end Outline

/-! ## Type arguments that are no keys -/

/-- The keys that are spelled well: a plain name, or one with arguments in a pair of brackets, each of them spelled
well. -/
inductive WellSpelled : List Char → Prop where
  | name {cs : List Char} (h : TypeExpr.Token.Tidy cs) : WellSpelled cs
  | generic {head : List Char} {args : List (List Char)} {brackets : Char × Char}
    (hhead : TypeExpr.Token.Tidy head) (hbrackets : brackets ∈ [('«', '»'), ('<', '>')]) (hne : args ≠ [])
    (hargs : ∀ a ∈ args, WellSpelled a) :
    WellSpelled (head ++ brackets.1 :: ([','].intercalate args ++ [brackets.2]))

theorem WellSpelled.single {head arg : List Char} (hhead : TypeExpr.Token.Tidy head)
    (harg : WellSpelled arg) : WellSpelled (head ++ '«' :: (arg ++ ['»'])) := by
  have h := @WellSpelled.generic head [arg] ('«', '»') hhead List.mem_cons_self (by simp)
    fun a ha => List.mem_singleton.mp ha ▸ harg
  simpa using h

/-- The references in a schema, at any depth. -/
def Schema.references (s : Schema) : List String :=
  (s.links .property).map Prod.fst

/-- The references in a parameter, at any depth. -/
def Parameter.references (p : Parameter) : List String :=
  (p.items.toList ++ p.schema.toList).flatMap Schema.references

/-- The references to definitions in a response. -/
def Response.references : Response → List String
  | reference target => [target]
  | inline _ schema => schema.toList.flatMap Schema.references

/-- The references to definitions in an operation, at any depth. -/
def Operation.allReferences (o : Operation) : List String :=
  (o.parameters.flatMap fun
    | .reference _ => []
    | .inline p => p.references) ++ o.responses.values.flatMap Response.references

/-- The references to definitions in a document, at any depth. -/
def Document.allReferences (d : Document) : List String :=
  d.definitions.values.flatMap Schema.references ++ d.parameters.values.flatMap Parameter.references
    ++ d.paths.values.flatMap fun p =>
      (Verb.all.filterMap p.operation?).flatMap Operation.allReferences

namespace Outline

/-- Pages of boxes of orders. -/
def pagesOfBoxes : Document :=
  answeredBy "Page«Box«Order»»" ["Page«Box«Order»»", "Box«Order»", "Order"] (by decide)

/-- The request for pages of boxes of orders leads to pages and to orders, but not to boxes. -/
theorem reachable_pagesOfBoxes {key : String}
    (h : pagesOfBoxes.Reachable (references .default pagesOfBoxes) key) :
    key = "Page«Box«Order»»" ∨ key = "Order" := by
  have hnames : ∀ outer ∈ ["Page«Box«Order»»", "Box«Order»", "Order"],
      ∀ n ∈ (TypeExpr.parse none outer).modelNames,
        n ∈ ["Page«Box«Order»»", "Box«Order»", "Order"] → n = "Order" := by
    decide +kernel
  refine (reachable_answeredBy h).imp_right ?_
  rintro ⟨outer, houter, hkey⟩
  exact hnames outer houter key hkey (mem_keys_of_reachable h)

theorem wellSpelled_pagesOfBoxes :
    ∀ key ∈ pagesOfBoxes.definitions.keys, WellSpelled key.toList := by
  have horder : WellSpelled "Order".toList := .name ⟨by decide, by decide, by decide⟩
  have hbox : WellSpelled ("Box".toList ++ '«' :: ("Order".toList ++ ['»'])) :=
    .single ⟨by decide, by decide, by decide⟩ horder
  have hpage : WellSpelled ("Page".toList ++ '«' :: ("Box«Order»".toList ++ ['»'])) :=
    .single ⟨by decide, by decide, by decide⟩ hbox
  intro key hkey
  simp only [pagesOfBoxes, keys_answeredBy, List.mem_cons, List.not_mem_nil, or_false] at hkey
  rcases hkey with rfl | rfl | rfl
  · exact hpage
  · exact hbox
  · exact horder

/-- What pages of boxes of orders are answered with. -/
theorem page_mem_types :
    TypeExpr.parse none "Page«Box«Order»»" ∈ (ofDocument .default pagesOfBoxes).types := by
  have hreturn : (requests .default pagesOfBoxes).map (fun r => r.operation.returnType pagesOfBoxes) =
      [TypeExpr.parse none "Page«Box«Order»»"] := by
    decide +kernel
  have hmem := List.mem_singleton_self (TypeExpr.parse none "Page«Box«Order»»")
  rw [← hreturn] at hmem
  obtain ⟨r, hr, hreturned⟩ := List.mem_map.mp hmem
  refine List.mem_append_left _ (List.mem_flatMap.mpr
    ⟨r.endpoint .default pagesOfBoxes, List.mem_mergeSort.mpr (List.mem_map_of_mem hr), ?_⟩)
  rw [← hreturned]
  exact List.mem_cons_self

/-- **A nested type argument can lack its model.**  All keys are spelled well, all references have targets, and every
name in a key that is not one of a builtin is the beginning of a key; but the model `Box` that is mentioned in the
type of the answer is not there. -/
theorem missing_model_of_nested : ¬ ∀ (c : OutlineSettings) (d : Document),
    (∀ key ∈ d.definitions.keys, WellSpelled key.toList) →
    (∀ r ∈ d.allReferences, (d.definition? r).isSome = true) →
    (∀ r ∈ requests c d, r.operation.missingParameters d = []) →
    (∀ key ∈ d.definitions.keys, ∀ n ∈ keyNames key, Builtin.isName n = false →
      ∃ key' ∈ d.definitions.keys, headName key' = n) →
    ∀ e ∈ (ofDocument c d).types, ∀ n ∈ e.modelNames, ∃ m ∈ (ofDocument c d).models, m.name = n := by
  intro h
  have hparams : paramsModels .default pagesOfBoxes = [] := rfl
  have hmissing : (requests .default pagesOfBoxes).all
      (fun r => (r.operation.missingParameters pagesOfBoxes).isEmpty) = true := by
    decide +kernel
  have hbox := h .default pagesOfBoxes wellSpelled_pagesOfBoxes (by decide +kernel)
    (fun r hr => by simpa using List.all_eq_true.mp hmissing r hr) (by decide +kernel)
    _ page_mem_types "Box" (by decide +kernel)
  rcases exists_model_iff.mp hbox with ⟨key, hkey, hname, -⟩ | ⟨m, hm, -⟩
  · rcases reachable_pagesOfBoxes hkey with rfl | rfl
    · exact absurd hname (by decide +kernel)
    · exact absurd hname (by decide +kernel)
  · rw [hparams] at hm
    exact absurd hm List.not_mem_nil

end Outline

end ApiOutline
