import ApiOutline.Proofs.TypeExpr.Settled

/-!
# Two ways to a qualified text

There are two ways from a type to its text under a namespace.  The tree is written under the namespace, or the text
without qualifiers is read under it and written again.  The first puts the qualifier before every model name, and what
it writes is read back.  The second leaves the qualifier out where a name seems to carry it, so it comes to the same
text exactly if no model name does.

* `Canonical.of_none`: what is read without a namespace is canonical under every readable one.
* `renamed_eq_self_iff`: the trees that another namespace does not change.
* `respell_render_eq_iff`: the trees for which the two ways meet.
* `Qualified`, `Settled.qualified`: both ways for a type whose targets may be missing.
-/

namespace ApiOutline.TypeExpr

open Token

variable {space written : Option String} {ns : String}

/-! ## The first way -/

theorem ModelName.of_none (hspace : IsReadable space) {n : String} (h : ModelName none n) : ModelName space n := by
  refine ⟨h.ne_empty, h.foreign, ?_⟩
  rw [String.toList_append]
  exact hspace.tidy h.tidy_of_none

/-- **What is read without a namespace is canonical under every readable one.** -/
theorem Canonical.of_none (hspace : IsReadable space) {e : TypeExpr} (h : Canonical none e) : Canonical space e := by
  induction h with
  | scalar h => exact .scalar h
  | array _ ih => exact .array ih
  | map _ _ ihkey ihvalue => exact .map ihkey ihvalue
  | generic hbase hne _ ih => exact .generic (hbase.of_none hspace) hne ih
  | model h => exact .model (h.of_none hspace)
  | unresolved => exact .unresolved

/-- Canonical trees with the same text are the same. -/
theorem Canonical.render_inj {e e' : TypeExpr} (h : Canonical space e) (h' : Canonical space e') :
    render space e = render space e' ↔ e = e' := by
  refine ⟨fun htext => ?_, fun he => he ▸ rfl⟩
  rw [← parse_render h, htext, parse_render h']

/-! ## Names that another namespace does not change -/

theorem ofBuiltin_ne_model (b : Builtin) (n : String) : ofBuiltin b ≠ model n := by
  cases b <;> exact fun h => TypeExpr.noConfusion h

theorem ofBuiltin_ne_generic (b : Builtin) (n : String) (args : List TypeExpr) : ofBuiltin b ≠ generic n args := by
  cases b <;> exact fun h => TypeExpr.noConfusion h

/-- A name that becomes a model becomes the model of that name, the qualifier apart. -/
theorem unqualify_of_build_eq_model {name n : String} {args : List TypeExpr}
    (h : build space name args = model n) : unqualify space name = n := by
  unfold build at h
  dsimp only at h
  split at h
  · exact absurd h (by simp)
  split at h
  · exact absurd h (by simp)
  · exact absurd h (by simp)
  · exact absurd h (by simp)
  · exact absurd h (ofBuiltin_ne_model _ n)
  · exact model.inj h
  · exact absurd h (by simp)

/-- A name that becomes a model with arguments becomes the model of that name, the qualifier apart, and keeps its
arguments. -/
theorem of_build_eq_generic {name n : String} {args args' : List TypeExpr}
    (h : build space name args = generic n args') : unqualify space name = n ∧ args = args' := by
  unfold build at h
  dsimp only at h
  split at h
  · exact absurd h (by simp)
  split at h
  · exact absurd h (by simp)
  · exact absurd h (by simp)
  · exact absurd h (by simp)
  · exact absurd h (ofBuiltin_ne_generic _ n args')
  · exact absurd h (by simp)
  · exact generic.inj h

/-- **The trees that another namespace does not change.**  They are those whose model names it does not change. -/
theorem renamed_eq_self_iff {e : TypeExpr} (h : Canonical written e) :
    e.renamed space written = e ↔ ∀ n ∈ e.modelNames, unqualify space (qualifier written ++ n) = n := by
  induction h with
  | scalar _ => exact iff_of_true rfl fun _ hn => absurd hn List.not_mem_nil
  | array _ ih => rw [renamed, array.injEq, ih, modelNames]
  | map _ _ ihkey ihvalue =>
    rw [renamed, map.injEq, ihkey, ihvalue, modelNames]
    exact List.forall_mem_append.symm
  | @generic base args hbase hne _ ih =>
    have hargs : renamedAll space written args = args ↔
        ∀ n ∈ modelNamesAll args, unqualify space (qualifier written ++ n) = n := by
      rw [renamedAll_eq_map, modelNamesAll_eq_flatMap, List.forall_mem_flatMap]
      calc
        args.map (renamed space written) = args ↔ args.map (renamed space written) = args.map id := by
          rw [List.map_id]
        _ ↔ ∀ e ∈ args, renamed space written e = id e := List.map_inj_left
        _ ↔ ∀ e ∈ args, ∀ n ∈ e.modelNames, unqualify space (qualifier written ++ n) = n :=
          forall₂_congr ih
    rw [renamed, modelNames, List.forall_mem_cons, ← hargs]
    constructor
    · exact of_build_eq_generic
    · rintro ⟨hname, hargs⟩
      rw [hargs, build_of_foreign hname hbase.ne_empty hbase.foreign, if_neg hne]
  | @model n h =>
    rw [renamed, modelNames, List.forall_mem_singleton]
    refine ⟨unqualify_of_build_eq_model, fun hname => ?_⟩
    rw [build_of_foreign hname h.ne_empty h.foreign, if_pos rfl]
  | unresolved => exact iff_of_true rfl fun _ hn => absurd hn List.not_mem_nil

theorem unqualify_eq_self_iff (hne : ns ≠ "") {n : String} :
    unqualify (some ns) n = n ↔ ¬ (ns ++ ".").toList <+: n.toList := by
  rw [← qualifier_of_ne hne]
  refine ⟨?_, unqualify_of_not_qualified⟩
  rintro hself ⟨rest, hrest⟩
  have hname : n = qualifier (some ns) ++ String.ofList rest := by
    rw [← String.toList_inj, String.toList_append, String.toList_ofList, hrest]
  -- what is left of the name is shorter than the name
  have hrest : String.ofList rest = n := by
    rw [← unqualify_qualified (some ns) (String.ofList rest), ← hname, hself]
  rw [hrest, eq_comm, String.append_eq_right_iff, qualifier_of_ne hne, String.append_eq_empty_iff] at hname
  exact hne hname.1

/-! ## Where the two ways meet -/

/-- **The two ways meet where no model name carries the qualifier.** -/
theorem respell_render_eq_iff (hne : ns ≠ "") (hspace : IsReadable (some ns)) {e : TypeExpr} (h : Canonical none e) :
    respell (some ns) (render none e) = render (some ns) e ↔
      ∀ n ∈ e.modelNames, ¬ (ns ++ ".").toList <+: n.toList := by
  have hread : Canonical (some ns) (parse (some ns) (render none e)) := canonical_parse hspace _
  rw [respell, hread.render_inj (h.of_none hspace), parse_render_eq h, renamed_eq_self_iff h]
  simp only [qualifier_none_append, unqualify_eq_self_iff hne]

/-! ## Types whose targets may be missing -/

mutual

theorem modelNames_erase : ∀ e, modelNames (erase e) = modelNames e
  | scalar _ => rfl
  | array item => by rw [erase, modelNames, modelNames, modelNames_erase item]
  | map key value => by rw [erase, modelNames, modelNames, modelNames_erase key, modelNames_erase value]
  | generic base args => by rw [erase, modelNames, modelNames, modelNamesAll_eraseAll args]
  | model _ => rfl
  | unresolved _ => rfl

theorem modelNamesAll_eraseAll : ∀ es, modelNamesAll (eraseAll es) = modelNamesAll es
  | [] => rfl
  | e :: es => by
    rw [eraseAll, modelNamesAll, modelNamesAll, modelNames_erase e, modelNamesAll_eraseAll es]

end

/-- The text `shown` stands for the type `e` under the namespace `ns`: it is read back under the namespace, but for the
names of missing targets, and it is what the text of `e` without qualifiers becomes when it is read and written under
the namespace, if and only if no model name in `e` begins with the namespace and a point. -/
structure Qualified (ns : String) (e : TypeExpr) (shown : String) : Prop where
  parse_eq : parse (some ns) shown = e.erase
  respell_eq_iff : respell (some ns) e.toText = shown ↔ ∀ n ∈ e.modelNames, ¬ (ns ++ ".").toList <+: n.toList

/-- **The text of a settled type under a namespace stands for the type.** -/
theorem Settled.qualified (hne : ns ≠ "") (hspace : IsReadable (some ns)) {e : TypeExpr} (h : e.Settled) :
    Qualified ns e (render (some ns) e) where
  parse_eq := by
    rw [← render_erase]
    exact parse_render (Canonical.of_none hspace h)
  respell_eq_iff := by
    rw [toText, ← render_erase none e, ← render_erase (some ns) e, ← modelNames_erase e]
    exact respell_render_eq_iff hne hspace h

end ApiOutline.TypeExpr
