import ApiOutline.Proofs.TypeExpr.Placeholder
import ApiOutline.Proofs.TypeExpr.RoundTrip

/-!
# Types that are canonical but for missing targets

A reference without a target stays in a type under its own name, but the text of the type leaves the name out.  So a
type can be read back from its text no further than to the type without these names, and it is read back so far if
and only if the type without them is canonical.  Such a type is settled.

The types of schemas are put together from the types that keys spell and from builtins, by giving types their items and
by abstracting type arguments.  Each of these steps gives a settled type again.

* `erase`: a type without the names of missing targets.
* `Settled`, `settled_iff`: the types that are read back from their texts as far as possible.
* `Faithful`: what settled types are, in one.
* `Settled.withItems`, `Settled.abstractArgs`: the steps.
-/

namespace ApiOutline.TypeExpr

/-! ## Without the names of missing targets -/

mutual

/-- The type without the names of its missing targets. -/
def erase : TypeExpr → TypeExpr
  | scalar b => scalar b
  | array item => array (erase item)
  | map key value => map (erase key) (erase value)
  | generic base args => generic base (eraseAll args)
  | model name => model name
  | unresolved _ => unresolved ""

/-- The types without the names of their missing targets. -/
def eraseAll : List TypeExpr → List TypeExpr
  | [] => []
  | e :: es => erase e :: eraseAll es

end

theorem eraseAll_eq_map : ∀ es, eraseAll es = es.map erase
  | [] => rfl
  | e :: es => by rw [eraseAll, eraseAll_eq_map es, List.map_cons]

mutual

/-- **The text of a type leaves out the names of its missing targets.** -/
theorem render_erase (space : Option String) : ∀ e, render space (erase e) = render space e
  | scalar _ => rfl
  | array item => by rw [erase, render_array, render_array, render_erase space item]
  | map key value => by
    rw [erase, render_map, render_map, render_erase space key, render_erase space value]
  | generic base args => by rw [erase, render_generic, render_generic, renderArgs_eraseAll space args]
  | model _ => rfl
  | unresolved _ => rfl

theorem renderArgs_eraseAll (space : Option String) : ∀ es,
    renderArgs space (eraseAll es) = renderArgs space es
  | [] => rfl
  | e :: es => by
    rw [eraseAll, renderArgs_cons, renderArgs_cons, render_erase space e, renderMoreArgs_eraseAll space es]

theorem renderMoreArgs_eraseAll (space : Option String) : ∀ es,
    renderMoreArgs space (eraseAll es) = renderMoreArgs space es
  | [] => rfl
  | e :: es => by
    rw [eraseAll, renderMoreArgs_cons, renderMoreArgs_cons, render_erase space e, renderMoreArgs_eraseAll space es]

end

/-- In a canonical tree missing targets have no names. -/
theorem Canonical.erase_eq {space : Option String} {e : TypeExpr} (h : Canonical space e) : erase e = e := by
  induction h with
  | scalar _ => rfl
  | array _ ih => rw [erase, ih]
  | map _ _ ihkey ihvalue => rw [erase, ihkey, ihvalue]
  | @generic base args _ _ _ ih =>
    have hargs : args.map erase = args := (List.map_congr_left ih).trans (List.map_id args)
    rw [erase, eraseAll_eq_map, hargs]
  | model _ => rfl
  | unresolved => rfl

/-! ## Settled types -/

/-- A type that is canonical without the names of its missing targets. -/
def Settled (e : TypeExpr) : Prop :=
  Canonical none (erase e)

/-- **Settled types are those that are read back from their texts.**  What is read is canonical, and what is canonical
is read back. -/
theorem settled_iff {e : TypeExpr} : e.Settled ↔ parse none (render none e) = e.erase := by
  rw [Settled, ← render_erase none e]
  constructor
  · exact parse_render
  · intro h
    rw [← h]
    exact canonical_parse isReadable_none _

/-- A type is read back from its text, but for the names of its missing targets, and what is read is canonical: no
builtin that takes arguments stands without them, no model has an empty list of them, and no model is named like a
builtin or has a name with delimiters or with white space at its ends. -/
structure Faithful (e : TypeExpr) : Prop where
  parse_render : parse none (render none e) = e.erase
  canonical : Canonical none e.erase

theorem Settled.faithful {e : TypeExpr} (h : e.Settled) : e.Faithful :=
  ⟨settled_iff.mp h, h⟩

theorem Canonical.settled {e : TypeExpr} (h : Canonical none e) : e.Settled := by
  rw [Settled, h.erase_eq]
  exact h

namespace Settled

variable {e item key value : TypeExpr} {base : String} {args : List TypeExpr}

theorem ofBuiltin (b : Builtin) : (TypeExpr.ofBuiltin b).Settled :=
  (canonical_ofBuiltin b).settled

theorem placeholder : TypeExpr.placeholder.Settled :=
  (Canonical.scalar rfl).settled

theorem unresolved (reference : String) : (TypeExpr.unresolved reference).Settled :=
  Canonical.unresolved

theorem parse (text : String) : (TypeExpr.parse none text).Settled :=
  (canonical_parse isReadable_none text).settled

theorem array (h : item.Settled) : (TypeExpr.array item).Settled :=
  Canonical.array h

theorem map (hkey : key.Settled) (hvalue : value.Settled) : (TypeExpr.map key value).Settled :=
  Canonical.map hkey hvalue

theorem generic (hbase : ModelName none base) (hne : args ≠ []) (hargs : ∀ e ∈ args, e.Settled) :
    (TypeExpr.generic base args).Settled := by
  rw [Settled, erase, eraseAll_eq_map]
  exact Canonical.generic hbase (fun hnil => hne (List.map_eq_nil_iff.mp hnil)) (List.forall_mem_map.mpr hargs)

/-! ## The parts of settled types -/

theorem of_array (h : (TypeExpr.array item).Settled) : item.Settled := by
  rw [Settled, erase] at h
  cases h with
  | array h => exact h

theorem of_map (h : (TypeExpr.map key value).Settled) : key.Settled ∧ value.Settled := by
  rw [Settled, erase] at h
  cases h with
  | map hkey hvalue => exact ⟨hkey, hvalue⟩

theorem of_generic (h : (TypeExpr.generic base args).Settled) :
    ModelName none base ∧ args ≠ [] ∧ ∀ e ∈ args, e.Settled := by
  rw [Settled, erase, eraseAll_eq_map] at h
  cases h with
  | generic hbase hne hargs =>
    exact ⟨hbase, fun hnil => hne (List.map_eq_nil_iff.mpr hnil),
      fun _ he => hargs _ (List.mem_map_of_mem he)⟩

/-- The trees below the root of a settled tree are settled. -/
theorem of_mem_parts {c : TypeExpr} (h : e.Settled) (hc : c ∈ e.parts) : c.Settled := by
  cases e with
  | array item => exact List.mem_singleton.mp hc ▸ h.of_array
  | map key value =>
    rcases List.mem_cons.mp hc with rfl | hc
    · exact h.of_map.1
    · exact List.mem_singleton.mp hc ▸ h.of_map.2
  | generic base args => exact h.of_generic.2.2 c hc
  | scalar _ => exact absurd hc List.not_mem_nil
  | model _ => exact absurd hc List.not_mem_nil
  | unresolved _ => exact absurd hc List.not_mem_nil

theorem model_iff {name : String} : (TypeExpr.model name).Settled ↔ ModelName none name := by
  constructor
  · intro h
    rw [Settled, erase] at h
    cases h with
    | model h => exact h
  · exact Canonical.model

/-! ## Steps that keep types settled -/

/-- **A settled type with settled items is settled.** -/
theorem withItems (h : e.Settled) (hitem : item.Settled) : (e.withItems item).Settled := by
  cases e with
  | scalar b => exact h
  | array _ => exact hitem.array
  | map key _ => exact h.of_map.1.map hitem
  | generic base args =>
    obtain ⟨hbase, -, hargs⟩ := h.of_generic
    refine .generic hbase (List.append_ne_nil_of_right_ne_nil _ (List.cons_ne_nil _ _)) ?_
    exact List.forall_mem_append.mpr ⟨hargs, List.forall_mem_singleton.mpr hitem⟩
  | model base =>
    exact .generic (model_iff.mp h) (List.cons_ne_nil _ _) (List.forall_mem_singleton.mpr hitem)
  | unresolved reference => exact h

/-- The same root above other settled trees. -/
theorem mapParts {f : TypeExpr → TypeExpr} (h : e.Settled) (hparts : ∀ c ∈ e.parts, (f c).Settled) :
    (e.mapParts f).Settled := by
  cases e with
  | array item => exact (hparts item List.mem_cons_self).array
  | map key value =>
    exact (hparts key List.mem_cons_self).map (hparts value (List.mem_cons_of_mem _ List.mem_cons_self))
  | generic base args =>
    obtain ⟨hbase, hne, -⟩ := h.of_generic
    exact .generic hbase (fun hnil => hne (List.map_eq_nil_iff.mp hnil)) (List.forall_mem_map.mpr hparts)
  | scalar _ => exact h
  | model _ => exact h
  | unresolved _ => exact h

/-- **Abstraction keeps types settled.**  The placeholder is, and around it nothing changes. -/
theorem abstractArgs (params : List TypeExpr) (names : List String) :
    ∀ e : TypeExpr, e.Settled → (e.abstractArgs params names).Settled := by
  refine fun e => e.induct fun e ih h => ?_
  by_cases he : e.IsReplaced params names
  · rw [abstractArgs_of_isReplaced he]
    exact .placeholder
  · rw [abstractArgs_of_not_isReplaced he]
    exact h.mapParts fun c hc => ih c hc (h.of_mem_parts hc)

end Settled

end ApiOutline.TypeExpr
