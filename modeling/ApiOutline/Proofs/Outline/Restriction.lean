import ApiOutline.Proofs.Outline.Arrangement
import ApiOutline.Proofs.Resolution.Order

/-!
# Outlines under a narrower filter

A filter takes paths away before anything is built.  A narrower one takes away more, and with the first path that is
missing two runs part: other definitions are met first, circles are cut elsewhere, and names are given away in another
order.  The endpoints do not show it.  Each depends on its own request alone, and sorting them by their groups, which
keeps the order of what has the same group, commutes with leaving some of them out.

Fewer requests lead to fewer definitions and ask for fewer models of query parameters, so no name is given to a model
under the narrower filter that is not given to one under the wider filter, be it to another model.

* `StableSort.filter`, `StableSort.eq`: sorting what is left.
* `Outline.requests_filter`: the requests under a narrower filter.
* `Outline.sortedRequests`: the requests in the order of their endpoints.
* `Outline.restricted`: the main statement.
-/

namespace ApiOutline

/-! ## Stable sorts -/

section

variable {α β : Type} {key : α → String} {l s s' : List α}

/-- A stable sort is put together from what has the same key, in ascending order of the keys. -/
theorem StableSort.eq_flatMap (h : StableSort key l s) :
    s = (NameSet.ofNames (l.map key)).names.flatMap fun k => l.filter fun a => key a == k := by
  have hkeys : ∀ a ∈ s, key a ∈ (NameSet.ofNames (l.map key)).names := fun a ha =>
    NameSet.mem_names_ofNames.mpr (List.mem_map_of_mem (h.perm.mem_iff.mp ha))
  have hsorted := flatMap_filter_eq_self (NameMap.pairwise_names _) (h.ascending.imp Text.bytes_le_iff.mp) hkeys
  rw [← hsorted]
  exact List.flatMap_congr fun k _ => h.stable k

/-- **There is one way to sort stably.** -/
theorem StableSort.eq (h : StableSort key l s) (h' : StableSort key l s') : s = s' :=
  h.eq_flatMap.trans h'.eq_flatMap.symm

/-- What is left of a stable sort is a stable sort of what is left. -/
theorem StableSort.filter (h : StableSort key l s) (p : α → Bool) :
    StableSort key (l.filter p) (s.filter p) where
  perm := h.perm.filter p
  ascending := h.ascending.filter p
  stable := fun k => by rw [List.filter_comm, h.stable, List.filter_comm]

/-- Sorting what is left gives what is left of the sorted list. -/
theorem mergeSort_filter (key : α → String) (p : α → Bool) (l : List α) :
    ((l.filter p).mergeSort fun a b => decide (key a ≤ key b)) =
      (l.mergeSort fun a b => decide (key a ≤ key b)).filter p :=
  (stableSort_mergeSort key (l.filter p)).eq ((stableSort_mergeSort key l).filter p)

/-- Leaving out members before or after they are replaced, if it can be told from what replaces them. -/
theorem flatMap_filter_eq_filter_flatMap {f : α → List β} {p : α → Bool} {q : β → Bool}
    (h : ∀ a, ∀ b ∈ f a, q b = p a) (l : List α) : (l.filter p).flatMap f = (l.flatMap f).filter q := by
  induction l with
  | nil => rfl
  | cons a l ih =>
    rw [List.flatMap_cons, List.filter_append, ← ih]
    cases hp : p a with
    | true =>
      rw [List.filter_cons_of_pos hp, List.flatMap_cons, List.filter_eq_self.mpr fun b hb => (h a b hb).trans hp]
    | false =>
      have hnone : (f a).filter q = [] := List.filter_eq_nil_iff.mpr fun b hb => by simp [h a b hb, hp]
      rw [List.filter_cons_of_neg (by simp [hp]), hnone, List.nil_append]

end

namespace Outline

variable {c : OutlineSettings} {d : Document} {narrow : PathFilter}

/-! ## Requests -/

/-- **The requests under a narrower filter.**  They are those of the wider one on the paths that the narrower one
takes. -/
theorem requests_filter (h : ∀ path ∈ d.paths.keys, narrow.allows path = true → c.filter.allows path = true) :
    requests { c with filter := narrow } d = (requests c d).filter fun r => narrow.allows r.path := by
  have hpaths : (d.paths.entries.filter fun p => narrow.allows p.1) =
      (d.paths.entries.filter fun p => c.filter.allows p.1).filter fun p => narrow.allows p.1 := by
    rw [List.filter_filter]
    refine List.filter_congr fun p hp => ?_
    have hpath := h p.1 (List.mem_map_of_mem hp)
    cases hnarrow : narrow.allows p.1 with
    | true => rw [hpath hnarrow, Bool.and_self]
    | false => rw [Bool.false_and]
  rw [requests, hpaths]
  refine flatMap_filter_eq_filter_flatMap (fun p r hr => ?_) _
  obtain ⟨verb, -, hverb⟩ := List.mem_filterMap.mp hr
  obtain ⟨operation, -, rfl⟩ := Option.map_eq_some_iff.mp hverb
  rfl

theorem mem_requests_of_filter
    (h : ∀ path ∈ d.paths.keys, narrow.allows path = true → c.filter.allows path = true) {r : Request}
    (hr : r ∈ requests { c with filter := narrow } d) : r ∈ requests c d := by
  rw [requests_filter h] at hr
  exact List.mem_of_mem_filter hr

variable (c d) in
/-- The requests in the order of their endpoints: by their groups, and in each group as they come. -/
def sortedRequests : List Request :=
  (requests c d).mergeSort fun r r' => decide (c.naming.groupName r.path ≤ c.naming.groupName r'.path)

/-- The endpoints are built for the sorted requests, one for each. -/
theorem endpoints_eq_map : (ofDocument c d).endpoints = (sortedRequests c d).map (Request.endpoint c d) := by
  have hmap := List.map_mergeSort (l := requests c d) (f := Request.endpoint c d)
    (r := fun r r' => decide (c.naming.groupName r.path ≤ c.naming.groupName r'.path))
    (s := fun e e' => decide (e.group ≤ e'.group)) fun _ _ _ _ => rfl
  exact hmap.symm

theorem sortedRequests_filter
    (h : ∀ path ∈ d.paths.keys, narrow.allows path = true → c.filter.allows path = true) :
    sortedRequests { c with filter := narrow } d = (sortedRequests c d).filter fun r => narrow.allows r.path := by
  have hsorted := mergeSort_filter (fun r : Request => c.naming.groupName r.path)
    (fun r => narrow.allows r.path) (requests c d)
  rw [sortedRequests, sortedRequests, requests_filter h, hsorted]

/-! ## Models -/

/-- A name that is given to a model under a narrower filter is given to one under the wider filter. -/
theorem exists_model_of_filter
    (h : ∀ path ∈ d.paths.keys, narrow.allows path = true → c.filter.allows path = true) {name : String}
    (hname : ∃ m ∈ (ofDocument { c with filter := narrow } d).models, m.name = name) :
    ∃ m ∈ (ofDocument c d).models, m.name = name := by
  have hreferences : ∀ r ∈ references { c with filter := narrow } d, r ∈ references c d := by
    intro r hr
    obtain ⟨request, hrequest, hr⟩ := List.mem_flatMap.mp hr
    exact List.mem_flatMap.mpr ⟨request, mem_requests_of_filter h hrequest, hr⟩
  have hparams : ∀ m ∈ paramsModels { c with filter := narrow } d, m ∈ paramsModels c d := by
    intro m hm
    obtain ⟨request, hrequest, hm⟩ := List.mem_filterMap.mp hm
    exact List.mem_filterMap.mpr ⟨request, mem_requests_of_filter h hrequest, hm⟩
  rw [exists_model_iff] at hname ⊢
  rcases hname with ⟨key, hkey, hmodel⟩ | ⟨m, hm, hmodel⟩
  · exact Or.inl ⟨key, hkey.mono hreferences, hmodel⟩
  · exact Or.inr ⟨m, hparams m hm, hmodel⟩

/-! ## Outlines -/

/-- Of what the outline `whole` of a document has, the outline `part` has only what belongs to the paths that a filter
takes.  The walks through the requests, each of them in the state that the ones before it have left behind, build the
same endpoints for the requests on these paths; sorted, those of `part` are what is left of those of `whole` in the
same order; and the names of the models of `part` are names of models of `whole`. -/
structure Restricts (c : OutlineSettings) (d : Document) (filter : PathFilter) (whole part : Outline) : Prop where
  whole_built : (buildAll c d (opening d)).1 = (requests c d).map (Request.endpoint c d)
  part_built : (buildAll { c with filter := filter } d (opening d)).1 =
    ((requests c d).filter fun r => filter.allows r.path).map (Request.endpoint c d)
  sorted : (sortedRequests c d).Perm (requests c d)
  whole_endpoints : whole.endpoints = (sortedRequests c d).map (Request.endpoint c d)
  part_endpoints : part.endpoints =
    ((sortedRequests c d).filter fun r => filter.allows r.path).map (Request.endpoint c d)
  models : ∀ m ∈ part.models, ∃ m' ∈ whole.models, m'.name = m.name

/-- **Filtering is restriction.**  Let two settings differ in their filters only, and let one filter take no path of
the document that the other does not take.  Then the endpoints under the narrower filter are those under the wider one
that are built for requests on the paths which the narrower filter takes, the same and in the same order; and every
name of a model is the name of a model under the wider filter. -/
theorem restricted (c : OutlineSettings) (d : Document) (narrow : PathFilter)
    (h : ∀ path ∈ d.paths.keys, narrow.allows path = true → c.filter.allows path = true) :
    Restricts c d narrow (ofDocument c d) (ofDocument { c with filter := narrow } d) where
  whole_built := fst_buildAll c d _
  part_built := by
    rw [fst_buildAll, requests_filter h]
    rfl
  sorted := List.mergeSort_perm _ _
  whole_endpoints := endpoints_eq_map
  part_endpoints := by
    rw [endpoints_eq_map, sortedRequests_filter h]
    rfl
  models := fun m hm => exists_model_of_filter h ⟨m, hm, rfl⟩

/-- A document with a path for monitoring in front of the others.  Its response is the first to lead to orders. -/
def monitoredOrders : Document :=
  let refer (target : String) : Schema := { Schema.blank with reference := some target }
  let answer (target : String) : PathItem :=
    ⟨some { Operation.blank with responses := Dict.empty.insert "200" (.inline none (some (refer target))) },
      none, none, none, none, none, none⟩
  { Document.blank with
    paths := ((Dict.empty.insert "/internal/ping" (answer "#/definitions/Order")).insert "/user/get"
      (answer "#/definitions/User")).insert "/order/list" (answer "#/definitions/Order")
    definitions := (Dict.empty.insert "Order"
      { Schema.blank with properties := [("user", refer "#/definitions/User")] }).insert "User" Schema.blank }

/-- Leaving the path for monitoring out changes nothing about the others. -/
theorem restricted_monitoredOrders :
    let c : OutlineSettings := .default
    let narrow : PathFilter := ⟨[], ["/internal"]⟩
    (∀ path ∈ monitoredOrders.paths.keys, narrow.allows path = true → c.filter.allows path = true) ∧
      Restricts c monitoredOrders narrow (ofDocument c monitoredOrders)
        (ofDocument { c with filter := narrow } monitoredOrders) := by
  intro c narrow
  have hnarrow : ∀ path ∈ monitoredOrders.paths.keys, narrow.allows path = true → c.filter.allows path = true := by
    decide +kernel
  exact ⟨hnarrow, restricted c monitoredOrders narrow hnarrow⟩

end Outline

end ApiOutline
