import ApiOutline.Proofs.TypeExpr.Canonical
import ApiOutline.Proofs.TypeExpr.Placeholder
import ApiOutline.TypeExpr.GenericKey

/-!
# The models that type expressions mention

Which models a tree mentions is kept track of while trees are read and put together.  Reading a text brings in
the names among its tokens and no others, and what is mentioned is a name of its own kind, never a builtin.
Abstraction of arguments only takes names away.

* `mem_modelNames_withItems`, `mem_modelNames_abstractArgs`: trees that are put together.
* `name_mem_scan_of_mem_parse`, `modelName_of_mem_parse`: trees that are read.
* `mem_keyNames_of_mem_parse`, `GenericKey.mem_names_iff`: the names in a key, and those that are abstracted for it.
* `modelName_of_tidy`: the model of a key that is a plain name.
-/

namespace ApiOutline

namespace TypeExpr

open Token

/-! ## Trees that are put together -/

@[simp] theorem modelNames_ofBuiltin (b : Builtin) : (ofBuiltin b).modelNames = [] := by
  cases b <;> rfl

theorem mem_modelNamesAll {n : String} {es : List TypeExpr} :
    n ∈ modelNamesAll es ↔ ∃ e ∈ es, n ∈ e.modelNames := by
  rw [modelNamesAll_eq_flatMap, List.mem_flatMap]

theorem mem_modelNames_withItems {n : String} {e items : TypeExpr}
    (h : n ∈ (e.withItems items).modelNames) : n ∈ e.modelNames ∨ n ∈ items.modelNames := by
  cases e with
  | scalar b => exact Or.inl h
  | array item => exact Or.inr h
  | map key value =>
    rcases List.mem_append.mp h with hkey | hitems
    · exact Or.inl (List.mem_append_left _ hkey)
    · exact Or.inr hitems
  | generic base args =>
    rcases List.mem_cons.mp h with rfl | hargs
    · exact Or.inl List.mem_cons_self
    · obtain ⟨e, he, hn⟩ := mem_modelNamesAll.mp hargs
      rcases List.mem_append.mp he with he | he
      · exact Or.inl (List.mem_cons_of_mem _ (mem_modelNamesAll.mpr ⟨e, he, hn⟩))
      · exact Or.inr (List.mem_singleton.mp he ▸ hn)
  | model base =>
    rcases List.mem_cons.mp h with rfl | hargs
    · exact Or.inl List.mem_cons_self
    · obtain ⟨e, he, hn⟩ := mem_modelNamesAll.mp hargs
      exact Or.inr (List.mem_singleton.mp he ▸ hn)
  | unresolved r => exact Or.inl h

/-- Abstraction takes names away.  What it replaces has none any more, and the names in other trees are those at the
root, which stay, and those in the trees below. -/
theorem mem_modelNames_abstractArgs {args : List TypeExpr} {names : List String} {n : String} :
    ∀ {e : TypeExpr}, n ∈ (abstractArgs args names e).modelNames → n ∈ e.modelNames := by
  refine fun {e} => e.induct fun e ih h => ?_
  by_cases he : e.IsReplaced args names
  · rw [abstractArgs_of_isReplaced he] at h
    exact absurd h List.not_mem_nil
  · rw [abstractArgs_of_not_isReplaced he] at h
    cases e with
    | array item => exact ih item List.mem_cons_self h
    | map key value =>
      refine List.mem_append.mpr ((List.mem_append.mp h).imp (ih key List.mem_cons_self) ?_)
      exact ih value (List.mem_cons_of_mem _ List.mem_cons_self)
    | generic base params =>
      refine List.mem_cons.mpr ((List.mem_cons.mp h).imp_right fun h => ?_)
      obtain ⟨_, hmem, hn⟩ := mem_modelNamesAll.mp h
      obtain ⟨c, hc, rfl⟩ := List.mem_map.mp hmem
      exact mem_modelNamesAll.mpr ⟨c, hc, ih c hc hn⟩
    | scalar _ => exact h
    | model _ => exact h
    | unresolved _ => exact h

/-! ## Trees that are read -/

/-- Every name in the tree is one of `P`. -/
def Uses (P : String → Prop) (e : TypeExpr) : Prop :=
  ∀ n ∈ e.modelNames, P n

section

variable {P : String → Prop}

theorem unqualify_none (name : String) : unqualify none name = name := by
  have h := unqualify_qualified none name
  rwa [qualifier_none_append] at h

theorem uses_ofBuiltin (b : Builtin) : Uses P (ofBuiltin b) := by
  simp [Uses]

theorem uses_build {name : String} {args : List TypeExpr} (hname : P name)
    (hargs : ∀ e ∈ args, Uses P e) : Uses P (build none name args) := by
  unfold build
  rw [unqualify_none]
  dsimp only
  split
  · exact fun _ h => absurd h List.not_mem_nil
  split
  · exact fun n hn => hargs _ List.mem_cons_self n hn
  · exact fun n hn => hargs _ List.mem_cons_self n hn
  · intro n hn
    rcases List.mem_append.mp hn with hn | hn
    · exact hargs _ List.mem_cons_self n hn
    · exact hargs _ (List.mem_cons_of_mem _ List.mem_cons_self) n hn
  · exact uses_ofBuiltin _
  · exact fun n hn => List.mem_singleton.mp hn ▸ hname
  · intro n hn
    rcases List.mem_cons.mp hn with rfl | hn
    · exact hname
    · obtain ⟨e, he, hn⟩ := mem_modelNamesAll.mp hn
      exact hargs e he n hn

theorem buildKeeps_uses (hempty : P "") : BuildKeeps none P (Uses P) where
  empty := hempty
  build := uses_build

end

/-- The names of the models in a canonical tree are names of models. -/
theorem Canonical.modelName_of_mem {space : Option String} {e : TypeExpr} {n : String}
    (h : Canonical space e) (hn : n ∈ e.modelNames) : ModelName space n := by
  induction h with
  | scalar _ => exact absurd hn List.not_mem_nil
  | array _ ih => exact ih hn
  | map _ _ ihkey ihvalue => exact (List.mem_append.mp hn).elim ihkey ihvalue
  | generic hbase _ _ ih =>
    rcases List.mem_cons.mp hn with rfl | hn
    · exact hbase
    · obtain ⟨e, he, hn⟩ := mem_modelNamesAll.mp hn
      exact ih e he hn
  | model h => exact List.mem_singleton.mp hn ▸ h
  | unresolved => exact absurd hn List.not_mem_nil

/-- The models that a text mentions have names of models. -/
theorem modelName_of_mem_parse {text n : String} (h : n ∈ (parse none text).modelNames) :
    ModelName none n :=
  (canonical_parse isReadable_none text).modelName_of_mem h

/-- **The models that a text mentions stand among its tokens.** -/
theorem name_mem_scan_of_mem_parse {text n : String} (h : n ∈ (parse none text).modelNames) :
    .name n ∈ scan text := by
  have huses : Uses (fun n => n = "" ∨ .name n ∈ scan text) (parse none text) :=
    (buildKeeps_uses (Or.inl rfl)).holds_parse fun _ hn => Or.inr hn
  exact (huses n h).resolve_left (modelName_of_mem_parse h).ne_empty

end TypeExpr

/-! ## Keys -/

/-- The models that a key mentions are among its names. -/
theorem mem_keyNames_of_mem_parse {key n : String} (h : n ∈ (TypeExpr.parse none key).modelNames) :
    n ∈ keyNames key :=
  List.mem_eraseDups.mpr (List.mem_filterMap.mpr ⟨_, TypeExpr.name_mem_scan_of_mem_parse h, rfl⟩)

theorem GenericKey.model_of_ofKey? {key : String} {g : GenericKey} (hg : GenericKey.ofKey? key = some g) :
    g.model = headName key := by
  unfold GenericKey.ofKey? at hg
  split at hg
  · obtain rfl := Option.some.inj hg
    rfl
  · exact absurd hg (by simp)

/-- The names that are abstracted for a generic key are the names in it, but for that of its own model. -/
theorem GenericKey.mem_names_iff {key n : String} {g : GenericKey} (hg : GenericKey.ofKey? key = some g) :
    n ∈ g.names ↔ n ∈ keyNames key ∧ n ≠ g.model := by
  unfold GenericKey.ofKey? at hg
  split at hg
  · obtain rfl := Option.some.inj hg
    simp
  · exact absurd hg (by simp)

theorem isGenericKey_of_plain {key : String} (h : TypeExpr.Token.Plain key.toList) :
    isGenericKey key = false := by
  have hcloser : ∀ c, TypeExpr.Token.delimiter? c = some .closer → key.toList.contains c = false := by
    intro c hc
    rw [← Bool.not_eq_true, List.contains_iff_mem]
    exact fun hmem => absurd ((h c hmem).symm.trans hc) (by simp)
  rw [isGenericKey, hcloser '»' (by decide), hcloser '>' (by decide)]
  simp

/-- A key that is a plain name is the name of its model. -/
theorem modelName_of_tidy {key : String} (h : TypeExpr.Token.Tidy key.toList) : modelName key = key := by
  rw [modelName, isGenericKey_of_plain h.plain]
  rfl

end ApiOutline
