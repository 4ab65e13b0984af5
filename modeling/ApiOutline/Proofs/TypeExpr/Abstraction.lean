import ApiOutline.Proofs.TypeExpr.Names

/-!
# What abstraction leaves of a type

Abstraction puts the placeholder in the place of a model that stands on its own under one of the given names, at any
depth.  A model with arguments keeps its name, but not its arguments, so the models that count here are those that
stand without any.

* `TypeExpr.bareNames`: the models that stand without arguments.
* `TypeExpr.notMem_bareNames_abstractArgs`: none of them has one of the given names.
* `HeadedBy`: the keys that begin with a name and an opener.
-/

namespace ApiOutline

namespace TypeExpr

/-! ## Models without arguments -/

mutual

/-- The names of the models that stand in the tree without arguments, from left to right. -/
def bareNames : TypeExpr → List String
  | scalar _ => []
  | array item => bareNames item
  | map key value => bareNames key ++ bareNames value
  | generic _ args => bareNamesAll args
  | model name => [name]
  | unresolved _ => []

/-- The names of the models that stand in the trees without arguments, from left to right. -/
def bareNamesAll : List TypeExpr → List String
  | [] => []
  | e :: es => bareNames e ++ bareNamesAll es

end

@[simp] theorem bareNames_ofBuiltin (b : Builtin) : (ofBuiltin b).bareNames = [] := by
  cases b <;> rfl

/-- A builtin has no model but in its items. -/
theorem mem_bareNames_withItems_ofBuiltin {n : String} {b : Builtin} {items : TypeExpr}
    (h : n ∈ ((ofBuiltin b).withItems items).bareNames) : n ∈ items.bareNames := by
  cases b <;> first | exact h | exact absurd h List.not_mem_nil

theorem bareNamesAll_eq_flatMap (es : List TypeExpr) : bareNamesAll es = es.flatMap bareNames := by
  induction es with
  | nil => rfl
  | cons e es ih => rw [bareNamesAll, ih, List.flatMap_cons]

/-- The models that stand in a tree without arguments are those among its subtrees. -/
theorem mem_bareNames_iff {n : String} : ∀ {e : TypeExpr}, n ∈ e.bareNames ↔ (model n).Within e := by
  refine fun {e} => e.induct fun e ih => ?_
  have hparts : n ∈ e.bareNames ↔ model n = e ∨ ∃ c ∈ e.parts, n ∈ c.bareNames := by
    cases e <;> simp [bareNames, parts, bareNamesAll_eq_flatMap]
  rw [hparts, within_iff]
  exact or_congr_right (exists_congr fun c => and_congr_right (ih c))

/-! ## Abstraction -/

/-- **No model without arguments keeps a name that is abstracted.**  Such a model would be what abstraction has made of
a subtree: not of one that it replaces, and any other one would be that very model. -/
theorem notMem_bareNames_abstractArgs {args : List TypeExpr} {names : List String} {n : String} (hn : n ∈ names)
    (e : TypeExpr) : n ∉ (abstractArgs args names e).bareNames := by
  intro h
  obtain ⟨b, -, hb⟩ := exists_of_within_abstractArgs e (mem_bareNames_iff.mp h)
  by_cases hreplaced : b.IsReplaced args names
  · rw [abstractArgs_of_isReplaced hreplaced] at hb
    exact absurd hb (by simp [placeholder])
  · rw [abstractArgs_of_not_isReplaced hreplaced, eq_comm, mapParts_eq_model_iff] at hb
    exact hreplaced (Or.inr ⟨n, hn, hb⟩)

end TypeExpr

/-! ## Generic keys -/

/-- The first delimiter of the key is an opener, and `head` stands before it, white space apart. -/
def HeadedBy (key head : String) : Prop :=
  ∃ before o rest, key.toList = before ++ o :: rest ∧ TypeExpr.Token.Plain before ∧
    TypeExpr.Token.delimiter? o = some .opener ∧ head = String.ofList (Text.trimChars before) ∧ head ≠ ""

theorem headName_eq_of_headedBy {key head : String} (h : HeadedBy key head) : headName key = head := by
  obtain ⟨before, o, rest, hkey, hplain, ho, rfl, -⟩ := h
  have hbefore : ∀ c ∈ before, (c != '«' && c != '<') = true := fun c hc => by
    have hc := hplain c hc
    unfold TypeExpr.Token.delimiter? at hc
    split at hc
    · exact absurd hc (by simp)
    · next hne => simpa using hne
  have ho : (o != '«' && o != '<') = false := by
    unfold TypeExpr.Token.delimiter? at ho
    split at ho
    · next heq => rcases heq with rfl | rfl <;> rfl
    split at ho
    · exact absurd ho (by simp)
    split at ho <;> exact absurd ho (by simp)
  rw [headName, hkey, List.takeWhile_append_of_pos hbefore, List.takeWhile_cons_of_neg (by simp [ho]),
    List.append_nil]

/-- In the types of a generic key its other names do not stand for models without arguments. -/
theorem GenericKey.notMem_bareNames_abstract {key n : String} {g : GenericKey}
    (hg : GenericKey.ofKey? key = some g) (hn : n ∈ keyNames key) (hhead : n ≠ headName key)
    (e : TypeExpr) : n ∉ (g.abstract e).bareNames := by
  have hother : n ≠ g.model := GenericKey.model_of_ofKey? hg ▸ hhead
  exact TypeExpr.notMem_bareNames_abstractArgs ((GenericKey.mem_names_iff hg).mpr ⟨hn, hother⟩) e

end ApiOutline
