import ApiOutline.TypeExpr.Basic

/-!
# Type arguments and their placeholder

Abstraction goes through a type from the top.  A subtree that is a type argument becomes the placeholder at once, and
around it the type is put together again.  Putting it together cannot make up a new type argument: a tree in which
something was replaced holds a placeholder, and the type arguments hold none.  So no type argument is left, and there is
nothing to do a second time.

With a single type argument the placeholder can be filled with it again.  In a type that holds no placeholder of its own
every placeholder stands for the argument, so filling gives the type back.

Abstraction and filling treat all nodes alike but for those that they replace.  So each of them is described by one
equation, in terms of the trees directly below a node.

* `TypeExpr.parts`, `TypeExpr.mapParts`: the trees directly below a node.
* `TypeExpr.Within`: the subtrees of a tree.
* `TypeExpr.fill`: the tree with an argument in the place of the placeholder.
* `TypeExpr.exists_of_within_abstractArgs`: the subtrees after abstraction.
* `TypeExpr.fill_abstractArgs`: filling undoes abstraction.
* `TypeExpr.abstraction_complete_and_undone`: the main statement.
-/

namespace ApiOutline

namespace TypeExpr

/-! ## Nodes -/

/-- The trees directly below the root. -/
def parts : TypeExpr → List TypeExpr
  | array item => [item]
  | map key value => [key, value]
  | generic _ params => params
  | scalar _ | model _ | unresolved _ => []

/-- The same root above other trees. -/
def mapParts (f : TypeExpr → TypeExpr) : TypeExpr → TypeExpr
  | array item => array (f item)
  | map key value => map (f key) (f value)
  | generic base params => generic base (params.map f)
  | e => e

section

variable {f g : TypeExpr → TypeExpr} {e : TypeExpr}

@[simp] theorem parts_mapParts (f : TypeExpr → TypeExpr) (e : TypeExpr) :
    (e.mapParts f).parts = e.parts.map f := by
  cases e <;> rfl

@[simp] theorem mapParts_mapParts (e : TypeExpr) : (e.mapParts f).mapParts g = e.mapParts (g ∘ f) := by
  cases e <;> simp [mapParts]

theorem mapParts_eq_self (h : ∀ c ∈ e.parts, f c = c) : e.mapParts f = e := by
  cases e with
  | array item => rw [mapParts, h item List.mem_cons_self]
  | map key value =>
    rw [mapParts, h key List.mem_cons_self, h value (List.mem_cons_of_mem _ List.mem_cons_self)]
  | generic base params =>
    have hparams : params.map f = params := (List.map_congr_left h).trans (List.map_id params)
    rw [mapParts, hparams]
  | scalar b => rfl
  | model name => rfl
  | unresolved reference => rfl

@[simp] theorem mapParts_eq_placeholder_iff : e.mapParts f = placeholder ↔ e = placeholder := by
  cases e <;> simp [mapParts, placeholder]

theorem mapParts_eq_model_iff {n : String} : e.mapParts f = model n ↔ e = model n := by
  cases e <;> simp [mapParts]

/-- Induction on trees, from the trees directly below the root to the whole. -/
@[elab_as_elim]
theorem induct {P : TypeExpr → Prop} (h : ∀ e, (∀ c ∈ e.parts, P c) → P e) : ∀ e, P e := by
  have hnil : ∀ e ∈ ([] : List TypeExpr), P e := fun _ he => absurd he List.not_mem_nil
  refine @TypeExpr.rec P (fun es => ∀ e ∈ es, P e) ?_ ?_ ?_ ?_ ?_ ?_ hnil ?_
  · exact fun b => h (scalar b) hnil
  · exact fun item hitem => h (array item) (List.forall_mem_singleton.mpr hitem)
  · exact fun key value hkey hvalue =>
      h (map key value) (List.forall_mem_cons.mpr ⟨hkey, List.forall_mem_singleton.mpr hvalue⟩)
  · exact fun base params hparams => h (generic base params) hparams
  · exact fun name => h (model name) hnil
  · exact fun reference => h (unresolved reference) hnil
  · exact fun _ _ he hes => List.forall_mem_cons.mpr ⟨he, hes⟩

end

/-- The tree `a` stands somewhere in a tree, be it as the whole. -/
inductive Within (a : TypeExpr) : TypeExpr → Prop where
  | whole : Within a a
  | part {e c : TypeExpr} (hc : c ∈ e.parts) (h : Within a c) : Within a e

section

variable {a e : TypeExpr}

theorem within_iff : a.Within e ↔ a = e ∨ ∃ c ∈ e.parts, a.Within c := by
  constructor
  · rintro (_ | ⟨hc, h⟩)
    · exact Or.inl rfl
    · exact Or.inr ⟨_, hc, h⟩
  · rintro (rfl | ⟨c, hc, h⟩)
    · exact .whole
    · exact .part hc h

theorem Within.eq_of_leaf (h : a.Within e) (hleaf : e.parts = []) : a = e := by
  cases h with
  | whole => rfl
  | part hc _ => exact absurd (hleaf ▸ hc) List.not_mem_nil

theorem not_within (hne : a ≠ e) (hparts : ∀ c ∈ e.parts, ¬ a.Within c) : ¬ a.Within e := by
  intro h
  cases h with
  | whole => exact hne rfl
  | part hc h => exact hparts _ hc h

end

/-! ## Abstraction -/

/-- Whether abstraction replaces the tree: it is a type argument, or a model under one of the names. -/
def IsReplaced (args : List TypeExpr) (names : List String) (e : TypeExpr) : Prop :=
  e ∈ args ∨ ∃ n ∈ names, e = model n

section

variable {args : List TypeExpr} {names : List String} {e a : TypeExpr}

theorem abstractArgs_of_isReplaced (h : e.IsReplaced args names) : e.abstractArgs args names = placeholder := by
  rcases h with h | ⟨n, hn, rfl⟩
  · cases e <;> simp [abstractArgs, h]
  · simp [abstractArgs, hn]

theorem abstractArgs_of_not_isReplaced (h : ¬ e.IsReplaced args names) :
    e.abstractArgs args names = e.mapParts (abstractArgs args names) := by
  obtain ⟨harg, hname⟩ := not_or.mp h
  cases e with
  | generic base params => simp [abstractArgs, harg, mapParts, abstractArgsAll_eq_map]
  | model n =>
    have hn : n ∉ names := fun hn => hname ⟨n, hn, rfl⟩
    simp [abstractArgs, harg, hn, mapParts]
  | _ => simp [abstractArgs, harg, mapParts]

/-- **The subtrees after abstraction are the subtrees, abstracted.**  A tree that is replaced becomes a placeholder,
which has no subtrees but itself. -/
theorem exists_of_within_abstractArgs :
    ∀ e : TypeExpr, a.Within (e.abstractArgs args names) →
      ∃ b : TypeExpr, b.Within e ∧ a = b.abstractArgs args names := by
  refine fun e => e.induct fun e ih h => ?_
  by_cases he : e.IsReplaced args names
  · rw [abstractArgs_of_isReplaced he] at h
    exact ⟨e, .whole, (h.eq_of_leaf rfl).trans (abstractArgs_of_isReplaced he).symm⟩
  · rw [abstractArgs_of_not_isReplaced he] at h
    cases h with
    | whole => exact ⟨e, .whole, (abstractArgs_of_not_isReplaced he).symm⟩
    | part hpart h =>
      rw [parts_mapParts] at hpart
      obtain ⟨c, hc, rfl⟩ := List.mem_map.mp hpart
      obtain ⟨b, hb, rfl⟩ := ih c hc h
      exact ⟨b, .part hc hb, rfl⟩

/-- A tree without anything to replace stays as it is. -/
theorem abstractArgs_eq_self : ∀ e : TypeExpr, (∀ a : TypeExpr, a.Within e → ¬ a.IsReplaced args names) →
    e.abstractArgs args names = e := by
  refine fun e => e.induct fun e ih h => ?_
  rw [abstractArgs_of_not_isReplaced (h e .whole)]
  exact mapParts_eq_self fun c hc => ih c hc fun a ha => h a (.part hc ha)

/-- If abstraction leaves no placeholder, it has replaced nothing. -/
theorem abstractArgs_eq_self_of_not_within : ∀ e : TypeExpr, ¬ placeholder.Within (e.abstractArgs args names) →
    e.abstractArgs args names = e := by
  refine fun e => e.induct fun e ih h => ?_
  by_cases he : e.IsReplaced args names
  · rw [abstractArgs_of_isReplaced he] at h
    exact absurd .whole h
  · rw [abstractArgs_of_not_isReplaced he] at h ⊢
    refine mapParts_eq_self fun c hc => ih c hc fun hwithin => h (.part ?_ hwithin)
    rw [parts_mapParts]
    exact List.mem_map_of_mem hc

section

variable (hargs : ∀ a ∈ args, ¬ placeholder.Within a)

include hargs

/-- What is replaced holds no placeholder. -/
theorem IsReplaced.not_within (h : e.IsReplaced args names) : ¬ placeholder.Within e := by
  rcases h with h | ⟨n, -, rfl⟩
  · exact hargs e h
  · intro hwithin
    exact absurd (hwithin.eq_of_leaf rfl) (by simp [placeholder])

/-- A tree is not replaced once it has been abstracted: it would hold no placeholder, so nothing in it would have been
replaced, not even the tree itself. -/
theorem not_isReplaced_abstractArgs (e : TypeExpr) : ¬ (e.abstractArgs args names).IsReplaced args names := by
  intro h
  have hnone := h.not_within hargs
  rw [abstractArgs_eq_self_of_not_within e hnone] at h
  rw [abstractArgs_of_isReplaced h] at hnone
  exact hnone .whole

/-- **Abstraction is complete**: no subtree is left that it would replace. -/
theorem not_isReplaced_of_within_abstractArgs (e : TypeExpr) (h : a.Within (e.abstractArgs args names)) :
    ¬ a.IsReplaced args names := by
  obtain ⟨b, -, rfl⟩ := exists_of_within_abstractArgs e h
  exact not_isReplaced_abstractArgs hargs b

end

end

/-! ## Filling -/

mutual

/-- The tree with `a` in the place of each placeholder `T`. -/
def fill (a : TypeExpr) : TypeExpr → TypeExpr
  | scalar b => if b = .t then a else scalar b
  | array item => array (fill a item)
  | map key value => map (fill a key) (fill a value)
  | generic base params => generic base (fillAll a params)
  | model name => model name
  | unresolved reference => unresolved reference

/-- The trees with `a` in the place of each placeholder `T`. -/
def fillAll (a : TypeExpr) : List TypeExpr → List TypeExpr
  | [] => []
  | e :: es => fill a e :: fillAll a es

end

theorem fillAll_eq_map (a : TypeExpr) : ∀ es, fillAll a es = es.map (fill a)
  | [] => rfl
  | e :: es => by rw [fillAll, fillAll_eq_map a es, List.map_cons]

@[simp] theorem fill_placeholder (a : TypeExpr) : fill a placeholder = a := rfl

theorem fill_of_ne {a e : TypeExpr} (h : e ≠ placeholder) : fill a e = e.mapParts (fill a) := by
  cases e with
  | scalar b =>
    have hb : b ≠ .t := fun hb => h (congrArg scalar hb)
    simp [fill, hb, mapParts]
  | generic base params => rw [fill, fillAll_eq_map, mapParts]
  | _ => rfl

/-- **Filling undoes abstraction.**  All that abstraction replaces is the one type argument, and it alone puts
placeholders into the tree. -/
theorem fill_abstractArgs {a : TypeExpr} {names : List String} (hnames : ∀ n ∈ names, a = model n) :
    ∀ e : TypeExpr, ¬ placeholder.Within e → fill a (e.abstractArgs [a] names) = e := by
  refine fun e => e.induct fun e ih h => ?_
  by_cases he : e.IsReplaced [a] names
  · rw [abstractArgs_of_isReplaced he, fill_placeholder]
    rcases he with he | ⟨n, hn, rfl⟩
    · exact (List.mem_singleton.mp he).symm
    · exact hnames n hn
  · have hne : e ≠ placeholder := fun heq => h (heq ▸ .whole)
    rw [abstractArgs_of_not_isReplaced he, fill_of_ne (mt mapParts_eq_placeholder_iff.mp hne), mapParts_mapParts]
    exact mapParts_eq_self fun c hc => ih c hc fun hwithin => h (.part hc hwithin)

/-! ## Both together -/

/-- **Abstraction is complete, and filling undoes it.**  Let no type argument hold a placeholder.  Then no type argument
and no model under one of the names stands anywhere in an abstracted type, and abstracting it again changes nothing.
With a single type argument, and no name but that of the argument if it is a model, a type that holds no placeholder is
got back by filling. -/
theorem abstraction_complete_and_undone :
    (∀ (e : TypeExpr) (args : List TypeExpr) (names : List String), (∀ a ∈ args, ¬ placeholder.Within a) →
      (∀ a ∈ args, ¬ a.Within (e.abstractArgs args names)) ∧
      (∀ n ∈ names, ¬ (model n).Within (e.abstractArgs args names)) ∧
      (e.abstractArgs args names).abstractArgs args names = e.abstractArgs args names) ∧
    ∀ (e a : TypeExpr) (names : List String), ¬ placeholder.Within e → (∀ n ∈ names, a = model n) →
      fill a (e.abstractArgs [a] names) = e := by
  refine ⟨fun e args names hargs => ?_, fun e a names he hnames => fill_abstractArgs hnames e he⟩
  have hleft : ∀ a : TypeExpr, a.Within (e.abstractArgs args names) → ¬ a.IsReplaced args names :=
    fun a => not_isReplaced_of_within_abstractArgs hargs e
  refine ⟨fun a ha hwithin => ?_, fun n hn hwithin => ?_, abstractArgs_eq_self _ hleft⟩
  · exact hleft a hwithin (Or.inl ha)
  · exact hleft (model n) hwithin (Or.inr ⟨n, hn, rfl⟩)

/-- In a map to lists of users the users are abstracted and filled in again. -/
theorem abstraction_complete_and_undone_users :
    let user := model "User"
    let users := map (scalar .string) (array user)
    let abstracted := users.abstractArgs [user] ["User"]
    abstracted = map (scalar .string) (array placeholder) ∧ ¬ user.Within abstracted ∧
      abstracted.abstractArgs [user] ["User"] = abstracted ∧ fill user abstracted = users := by
  have hstring : ¬ placeholder.Within (scalar .string) := fun h => absurd (h.eq_of_leaf rfl) (by decide)
  have huser : ¬ placeholder.Within (model "User") := fun h => absurd (h.eq_of_leaf rfl) (by decide)
  have hlist : ¬ placeholder.Within (array (model "User")) :=
    not_within (by decide) (List.forall_mem_singleton.mpr huser)
  have husers : ¬ placeholder.Within (map (scalar .string) (array (model "User"))) :=
    not_within (by decide) (List.forall_mem_cons.mpr ⟨hstring, List.forall_mem_singleton.mpr hlist⟩)
  obtain ⟨hnone, -, hagain⟩ := abstraction_complete_and_undone.1 (map (scalar .string) (array (model "User")))
    [model "User"] ["User"] (List.forall_mem_singleton.mpr huser)
  refine ⟨by decide, hnone _ List.mem_cons_self, hagain, ?_⟩
  exact abstraction_complete_and_undone.2 _ _ _ husers (List.forall_mem_singleton.mpr rfl)

end TypeExpr

end ApiOutline
