import ApiOutline.Outline.Listing
import ApiOutline.Proofs.Outline.Types
import ApiOutline.Proofs.TypeExpr.Qualified

/-!
# The qualified texts of a listing

A listing shows types with their model names qualified, and it writes the trees that the outline holds.  The written
form of an outline has the texts of these trees without qualifiers.  A text of this kind that is read and written under
the namespace becomes what the listing shows, exactly if no model name in it begins with the namespace and a point.

* `Outline.settled_properties`, `Outline.settled_returnType`, `Outline.settled_dataType`: the types that are read back.
* `Outline.ShowsQualified`: what holds of the types that a listing shows.
* `qualified_alike`: the main statement.
-/

namespace ApiOutline

open TypeExpr

namespace Outline

variable {c : OutlineSettings} {d : Document}

/-! ## The types of an outline -/

theorem settled_properties {m : Model} {p : Property} (hm : m ∈ (ofDocument c d).models) (hp : p ∈ m.properties) :
    p.type.Settled := by
  rcases mem_models hm with hparams | ⟨key, definition, -, -, rfl, -⟩
  · obtain ⟨r, -, hr⟩ := List.mem_filterMap.mp hparams
    exact (Operation.built_paramsModel hr hp).settled
  · exact (Scope.built_model _ key definition hp).settled

theorem exists_request_of_mem_endpoints {e : Endpoint} (he : e ∈ (ofDocument c d).endpoints) :
    ∃ r ∈ requests c d, r.endpoint c d = e :=
  List.mem_map.mp (List.mem_mergeSort.mp he)

theorem settled_returnType {e : Endpoint} (he : e ∈ (ofDocument c d).endpoints) : e.returnType.Settled := by
  obtain ⟨r, -, rfl⟩ := exists_request_of_mem_endpoints he
  exact (r.operation.built_returnType d).settled

theorem settled_dataType {e : Endpoint} {t : TypeExpr} (he : e ∈ (ofDocument c d).endpoints)
    (ht : e.dataType = some t) : t.Settled := by
  obtain ⟨r, -, rfl⟩ := exists_request_of_mem_endpoints he
  exact (Operation.built_dataType ht).settled

/-- The type of query parameters is settled if the name of the endpoint is read as part of a name. -/
theorem settled_paramsType {e : Endpoint} {t : TypeExpr} (he : e ∈ (ofDocument c d).endpoints)
    (ht : e.paramsType = some t) (hdelimiters : ∀ c ∈ e.name.toList, c ∉ ['«', '»', '<', '>', ','])
    (hblank : ∀ c, e.name.toList.head? = some c → Text.isBlank c = false) : t.Settled := by
  obtain ⟨r, -, rfl⟩ := exists_request_of_mem_endpoints he
  obtain ⟨argument, hargument, rfl⟩ := Option.map_eq_some_iff.mp ht
  obtain ⟨m, hm, rfl⟩ := Option.map_eq_some_iff.mp hargument
  rw [(Operation.paramsModel?_eq_some hm).1, Settled.model_iff]
  exact Operation.modelName_paramsName_iff.mpr ⟨hdelimiters, hblank⟩

/-! ## Listings -/

/-- The texts that a listing of the outline shows under the namespace `ns` stand for the types of properties and for
those that endpoints return and send; for the type of query parameters if the name of the endpoint holds no delimiter
and does not begin with white space. -/
structure ShowsQualified (ns : String) (o : Outline) : Prop where
  properties : ∀ m ∈ o.models, ∀ p ∈ m.properties, Qualified ns p.type (PropertyListing.of (some ns) p).type
  returned : ∀ e ∈ o.endpoints, Qualified ns e.returnType (EndpointListing.of (some ns) e).returnType
  data : ∀ e ∈ o.endpoints, ∀ t, e.dataType = some t →
    ∃ shown, (EndpointListing.of (some ns) e).dataType = some shown ∧ Qualified ns t shown
  params : ∀ e ∈ o.endpoints, ∀ t, e.paramsType = some t →
    (∀ c ∈ e.name.toList, c ∉ ['«', '»', '<', '>', ',']) →
      (∀ c, e.name.toList.head? = some c → Text.isBlank c = false) →
        ∃ shown, (EndpointListing.of (some ns) e).paramsType = some shown ∧ Qualified ns t shown

variable {ns : String}

theorem showsQualified (hne : ns ≠ "") (hspace : IsReadable (some ns)) (c : OutlineSettings) (d : Document) :
    (ofDocument c d).ShowsQualified ns where
  properties _ hm _ hp := (settled_properties hm hp).qualified hne hspace
  returned _ he := (settled_returnType he).qualified hne hspace
  data e he t ht := by
    have hshown : (EndpointListing.of (some ns) e).dataType = some (t.render (some ns)) := by
      rw [EndpointListing.of, ht]
      rfl
    exact ⟨_, hshown, (settled_dataType he ht).qualified hne hspace⟩
  params e he t ht hdelimiters hblank := by
    have hshown : (EndpointListing.of (some ns) e).paramsType = some (t.render (some ns)) := by
      rw [EndpointListing.of, ht]
      rfl
    exact ⟨_, hshown, (settled_paramsType he ht hdelimiters hblank).qualified hne hspace⟩

/-- **Trees and texts are qualified alike.**  Let the namespace be not empty and readable.  A tree that is read from a
text without a namespace is read back from its text under the namespace.  Its text without qualifiers becomes the same
text under the namespace, if and only if no model name in it begins with the namespace and a point.  The texts that a
listing shows stand in this way for the types of the outline. -/
theorem qualified_alike (hne : ns ≠ "") (hspace : IsReadable (some ns)) :
    (∀ text, parse (some ns) (render (some ns) (parse none text)) = parse none text ∧
      (respell (some ns) (render none (parse none text)) = render (some ns) (parse none text) ↔
        ∀ n ∈ (parse none text).modelNames, ¬ (ns ++ ".").toList <+: n.toList)) ∧
    ∀ c d, (ofDocument c d).ShowsQualified ns := by
  refine ⟨fun text => ?_, showsQualified hne hspace⟩
  have hread : Canonical none (parse none text) := canonical_parse isReadable_none text
  exact ⟨parse_render (hread.of_none hspace), respell_render_eq_iff hne hspace hread⟩

/-- Under the namespace `models` a text whose names are not qualified is qualified alike, and one with a qualified name
is not. -/
theorem qualified_alike_models :
    ("models" ≠ "" ∧ IsReadable (some "models")) ∧
      respell (some "models") (render none (parse none "Page«List«User», int64»")) =
        render (some "models") (parse none "Page«List«User», int64»") ∧
      respell (some "models") (render none (parse none "List«models.User»")) ≠
        render (some "models") (parse none "List«models.User»") := by
  have hne : "models" ≠ "" := by decide
  have hspace : IsReadable (some "models") := by
    rintro ns hns -
    obtain rfl := Option.some.inj hns
    have hplain : Token.Plain "models".toList := by decide
    refine ⟨fun c hc => delimiter?_eq_none_iff.mp (hplain c hc), fun c hc => ?_⟩
    obtain rfl : 'm' = c := Option.some.inj hc
    decide
  obtain ⟨htexts, -⟩ := qualified_alike hne hspace
  refine ⟨⟨hne, hspace⟩, (htexts _).2.mpr (by decide), fun heq => ?_⟩
  exact (htexts "List«models.User»").2.mp heq "models.User" (by decide) (by decide)

end Outline

end ApiOutline
