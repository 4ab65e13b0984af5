import ApiOutline.Proofs.Outline.Models
import ApiOutline.Proofs.Text.Case
import ApiOutline.Proofs.TypeExpr.Settled

/-!
# The types of an outline and their texts

Every type that a schema gives is settled, whatever the document holds: it is put together from builtins, from types
that keys spell and from missing targets, and each step keeps it settled.  So the types that endpoints return and send,
and those of the properties of models, are read back from their texts.

There is one place where a name is made without being read.  The model of query parameters is named after the last
segment of a path, and a segment may hold anything but a slash.  Its first character is put in upper case, which leaves
delimiters and white space alone, and what is put behind it makes the name no name of a builtin.  So the type of the
model is read back if and only if the segment holds no delimiter and does not begin with white space.

* `Document.Built.settled`: the types of schemas.
* `Operation.modelName_paramsName_iff`: the names of the models of query parameters.
* `Outline.TypesReadBack`, `Outline.types_read_back`: the main statement.
-/

namespace ApiOutline

open TypeExpr

theorem Document.settled_referenceType (d : Document) (reference : String) :
    (d.referenceType reference).Settled := by
  unfold referenceType
  cases d.definition? reference with
  | some definition => exact .parse _
  | none => exact .unresolved _

/-- **What is put together from builtins and references is settled.** -/
theorem Document.Built.settled {d : Document} {rs : List String} {e : TypeExpr} (h : d.Built rs e) : e.Settled := by
  induction h with
  | builtin b => exact .ofBuiltin b
  | reference _ => exact d.settled_referenceType _
  | withItems _ _ ihe ihitems => exact ihe.withItems ihitems
  | array _ ih => exact ih.array
  | abstract g _ ih => exact .abstractArgs g.args g.names _ ih

/-! ## The names of the models of query parameters -/

namespace Operation

variable {operationName : String}

/-- Delimiters are left alone by case. -/
theorem caseless_delimiters : Text.Caseless (Text.runsOf ['«', '»', '<', '>', ',']) :=
  ⟨by decide, by decide +kernel, by decide +kernel⟩

theorem plain_capitalize_iff {cs : List Char} :
    Token.Plain (Text.capitalize cs) ↔ ∀ c ∈ cs, c ∉ ['«', '»', '<', '>', ','] := by
  have hdelimiter : ∀ c, Text.memRuns (Text.runsOf ['«', '»', '<', '>', ',']) c = false ↔
      c ∉ ['«', '»', '<', '>', ','] := by
    intro c
    rw [← Text.memRuns_runsOf, Bool.not_eq_true]
  simp only [Token.Plain, delimiter?_eq_none_iff, ← hdelimiter]
  exact caseless_delimiters.forall_capitalize_iff

/-- No name of a builtin ends like the name of a model of query parameters. -/
theorem ofName?_paramsName (operationName : String) : Builtin.ofName? (paramsName operationName) = none := by
  have htable : ∀ p ∈ Builtin.table, p.1.toList.getLast? ≠ some 's' := by decide
  have hall : ∀ b ∈ Builtin.all, b.canonical.toList.getLast? ≠ some 's' := by decide
  have hlast : (paramsName operationName).toList.getLast? = some 's' := by
    rw [paramsName, String.toList_append, List.getLast?_append]
    rfl
  cases h : Builtin.ofName? (paramsName operationName) with
  | none => rfl
  | some b => exact absurd hlast (Builtin.of_ofName? (P := fun n => n.toList.getLast? ≠ some 's') htable hall h)

/-- **The names that are read back.**  The model of query parameters has a name that is read as one if and only if the
name of the operation holds no delimiter and does not begin with white space. -/
theorem modelName_paramsName_iff : ModelName none (paramsName operationName) ↔
    (∀ c ∈ operationName.toList, c ∉ ['«', '»', '<', '>', ',']) ∧
      ∀ c, operationName.toList.head? = some c → Text.isBlank c = false := by
  have hsuffix : Token.Tidy "Params".toList := ⟨by decide, by decide, by decide⟩
  have hname : (qualifier none ++ paramsName operationName).toList =
      Text.capitalize operationName.toList ++ "Params".toList := by
    rw [paramsName, Naming.capitalizeFirst, show qualifier none = "" from rfl, String.empty_append,
      String.toList_append, String.toList_ofList]
  have htidy : Token.Tidy (qualifier none ++ paramsName operationName).toList ↔
      (∀ c ∈ operationName.toList, c ∉ ['«', '»', '<', '>', ',']) ∧
        ∀ c, operationName.toList.head? = some c → Text.isBlank c = false := by
    rw [hname, Token.tidy_append_iff hsuffix, plain_capitalize_iff]
    exact and_congr_right' Text.caseless_blankRuns.head_capitalize_iff
  rw [← htidy]
  refine ⟨ModelName.tidy, fun h => ⟨?_, ofName?_paramsName operationName, h⟩⟩
  intro hempty
  rw [paramsName, String.append_eq_empty_iff] at hempty
  exact absurd hempty.2 (by decide)

end Operation

/-! ## Outlines -/

namespace Outline

/-- The types that endpoints return and send and those of the properties of models are read back from their texts.  So
is the type of query parameters, if and only if the name of the endpoint holds no delimiter and does not begin with
white space. -/
structure TypesReadBack (o : Outline) : Prop where
  returned : ∀ e ∈ o.endpoints, e.returnType.Faithful
  data : ∀ e ∈ o.endpoints, ∀ t, e.dataType = some t → t.Faithful
  properties : ∀ m ∈ o.models, ∀ p ∈ m.properties, p.type.Faithful
  params : ∀ e ∈ o.endpoints, ∀ t, e.paramsType = some t →
    (parse none (render none t) = t.erase ↔
      (∀ c ∈ e.name.toList, c ∉ ['«', '»', '<', '>', ',']) ∧
        ∀ c, e.name.toList.head? = some c → Text.isBlank c = false)

/-- **The types of an outline are read back from their texts.** -/
theorem types_read_back (c : OutlineSettings) (d : Document) : (ofDocument c d).TypesReadBack := by
  have hendpoint : ∀ e ∈ (ofDocument c d).endpoints, ∃ r ∈ requests c d, r.endpoint c d = e :=
    fun e he => List.mem_map.mp (List.mem_mergeSort.mp he)
  refine ⟨fun e he => ?_, fun e he t ht => ?_, fun m hm p hp => ?_, fun e he t ht => ?_⟩
  · obtain ⟨r, -, rfl⟩ := hendpoint e he
    exact (r.operation.built_returnType d).settled.faithful
  · obtain ⟨r, -, rfl⟩ := hendpoint e he
    exact (Operation.built_dataType ht).settled.faithful
  · rcases mem_models hm with hparams | ⟨key, definition, -, -, rfl, -⟩
    · obtain ⟨r, -, hr⟩ := List.mem_filterMap.mp hparams
      exact (Operation.built_paramsModel hr hp).settled.faithful
    · exact (Scope.built_model _ key definition hp).settled.faithful
  · obtain ⟨r, -, rfl⟩ := hendpoint e he
    obtain ⟨argument, hargument, rfl⟩ := Option.map_eq_some_iff.mp ht
    obtain ⟨m, hm, rfl⟩ := Option.map_eq_some_iff.mp hargument
    rw [← settled_iff, Settled.model_iff, (Operation.paramsModel?_eq_some hm).1]
    exact Operation.modelName_paramsName_iff

end Outline

end ApiOutline
