import ApiOutline.Proofs.TypeExpr.Reading

/-!
# Canonical trees

Reading is lenient, but what it gives is in a canonical form: builtins without arguments are no collections,
models with arguments have some, and every model name, written with its qualifier, is read as one name.  This
holds for all texts, however they are spelled, as long as the namespace itself can be read as part of a name.

* `IsReadable`: the namespaces that can be read as part of a name.
* `ModelName`, `Canonical`: the names and the trees that reading gives.
* `canonical_build`: what a name and its arguments become.
* `canonical_parse`: the main statement.
-/

namespace ApiOutline.TypeExpr

open Token Text

/-! ## Namespaces -/

/-- The namespaces that can be read as part of a name: none, the empty one, and those that hold no delimiter
and do not begin with white space. -/
def IsReadable (space : Option String) : Prop :=
  ∀ ns, space = some ns → ns ≠ "" →
    (∀ c ∈ ns.toList, c ∉ ['«', '»', '<', '>', ',']) ∧
      ∀ c, ns.toList.head? = some c → isBlank c = false

theorem isReadable_none : IsReadable none := fun _ h => absurd h (by simp)

theorem delimiter?_eq_none_iff {c : Char} :
    delimiter? c = none ↔ c ∉ ['«', '»', '<', '>', ','] := by
  unfold delimiter?
  grind

theorem qualifier_of_ne {ns : String} (h : ns ≠ "") : qualifier (some ns) = ns ++ "." := by
  simp [qualifier, h]

/-- Without a namespace names have no qualifier. -/
theorem qualifier_none_append (n : String) : qualifier none ++ n = n :=
  String.empty_append

/-- A qualifier is empty, or it is a namespace with a point behind it. -/
theorem qualifier_cases (space : Option String) :
    (qualifier space = "") ∨ ∃ ns, space = some ns ∧ ns ≠ "" ∧ qualifier space = ns ++ "." := by
  cases space with
  | none => exact Or.inl rfl
  | some ns =>
    by_cases h : ns = ""
    · exact Or.inl (by simp [qualifier, h])
    · exact Or.inr ⟨ns, rfl, h, qualifier_of_ne h⟩

/-- A name stays tidy when a readable namespace is put before it. -/
theorem IsReadable.tidy {space : Option String} (hspace : IsReadable space) {cs : List Char}
    (h : Tidy cs) : Tidy ((qualifier space).toList ++ cs) := by
  rcases qualifier_cases space with hq | ⟨ns, rfl, hns, hq⟩
  · rwa [hq, String.toList_empty, List.nil_append]
  · obtain ⟨hplain, hhead⟩ := hspace ns rfl hns
    have hchars : (ns ++ ".").toList = ns.toList ++ ['.'] := String.toList_append
    have hne : ns.toList ≠ [] := fun e => hns (String.toList_eq_nil_iff.mp e)
    rw [hq, hchars]
    refine (tidy_append_iff h).mpr ⟨Plain.append (fun c hc => ?_) (plain_nil.cons (by decide)), fun c hc => ?_⟩
    · exact delimiter?_eq_none_iff.mpr (hplain c hc)
    · rw [List.head?_append_of_ne_nil _ hne] at hc
      exact hhead c hc

/-! ## Qualified names -/

theorem unqualify_qualified (space : Option String) (n : String) :
    unqualify space (qualifier space ++ n) = n := by
  have h : (qualifier space).toList.isPrefixOf? ((qualifier space).toList ++ n.toList) =
      some n.toList :=
    List.isPrefixOf?_eq_some_iff_append_eq.mpr rfl
  rw [unqualify, String.toList_append, h]
  exact String.ofList_toList

theorem unqualify_of_not_qualified {space : Option String} {name : String}
    (h : ¬ (qualifier space).toList <+: name.toList) : unqualify space name = name := by
  unfold unqualify
  split
  · next rest hrest =>
    exact absurd ⟨rest, List.isPrefixOf?_eq_some_iff_append_eq.mp hrest⟩ h
  · rfl

/-- A name carries its qualifier, or it stays as it is. -/
theorem unqualify_cases (space : Option String) (name : String) :
    name = qualifier space ++ unqualify space name ∨ unqualify space name = name := by
  by_cases h : (qualifier space).toList <+: name.toList
  · obtain ⟨rest, hrest⟩ := h
    have hname : name = qualifier space ++ String.ofList rest := by
      rw [← String.toList_inj, String.toList_append, String.toList_ofList, hrest]
    refine Or.inl ?_
    rw [hname, unqualify_qualified]
  · exact Or.inr (unqualify_of_not_qualified h)

/-! ## Canonical trees -/

/-- The names that models have in trees: not empty, no builtins, and tidy when qualified. -/
structure ModelName (space : Option String) (n : String) : Prop where
  ne_empty : n ≠ ""
  foreign : Builtin.ofName? n = none
  tidy : Tidy (qualifier space ++ n).toList

theorem ModelName.tidy_of_none {n : String} (h : ModelName none n) : Tidy n.toList := by
  have htidy := h.tidy
  rwa [qualifier_none_append] at htidy

/-- The trees that reading gives. -/
inductive Canonical (space : Option String) : TypeExpr → Prop where
  | scalar {b : Builtin} (h : b.isCollection = false) : Canonical space (scalar b)
  | array {item : TypeExpr} (h : Canonical space item) : Canonical space (array item)
  | map {key value : TypeExpr} (hkey : Canonical space key) (hvalue : Canonical space value) :
    Canonical space (map key value)
  | generic {base : String} {args : List TypeExpr} (hbase : ModelName space base)
    (hne : args ≠ []) (hargs : ∀ e ∈ args, Canonical space e) : Canonical space (generic base args)
  | model {name : String} (h : ModelName space name) : Canonical space (model name)
  | unresolved : Canonical space (unresolved "")

variable {space : Option String}

theorem canonical_ofBuiltin (b : Builtin) : Canonical space (ofBuiltin b) := by
  cases b with
  | array => exact .array (.scalar rfl)
  | record => exact .map (.scalar rfl) (.scalar rfl)
  | _ => exact .scalar rfl

/-- What stands before an argument list: a tidy name, or nothing. -/
def IsHead (n : String) : Prop := n = "" ∨ Tidy n.toList

/-- A name that is read becomes a model name, unless nothing is left of it or it is a builtin. -/
theorem IsHead.modelName (hspace : IsReadable space) {name : String} (h : IsHead name)
    (hne : unqualify space name ≠ "") (hforeign : Builtin.ofName? (unqualify space name) = none) :
    ModelName space (unqualify space name) := by
  refine ⟨hne, hforeign, ?_⟩
  rcases unqualify_cases space name with hname | hname
  · rw [← hname]
    refine h.resolve_left fun hempty => hne ?_
    rw [hempty, eq_comm, String.append_eq_empty_iff] at hname
    rw [hempty]
    exact hname.2
  · rw [hname] at hne ⊢
    rw [String.toList_append]
    exact hspace.tidy (h.resolve_left hne)

/-- **A name and its arguments become a canonical tree.** -/
theorem canonical_build (hspace : IsReadable space) {name : String} {args : List TypeExpr}
    (hname : IsHead name) (hargs : ∀ e ∈ args, Canonical space e) :
    Canonical space (build space name args) := by
  unfold build
  dsimp only
  by_cases hempty : unqualify space name = ""
  · rw [if_pos (by simp [hempty])]
    exact .unresolved
  rw [if_neg (by simp [hempty])]
  split
  · exact .array (hargs _ List.mem_cons_self)
  · exact .map (.scalar rfl) (hargs _ List.mem_cons_self)
  · exact .map (hargs _ List.mem_cons_self) (hargs _ (List.mem_cons_of_mem _ List.mem_cons_self))
  · exact canonical_ofBuiltin _
  · next hforeign => exact .model (hname.modelName hspace hempty hforeign)
  · next hforeign hne => exact .generic (hname.modelName hspace hempty hforeign) hne hargs

/-! ## Reading -/

theorem buildKeeps_canonical (hspace : IsReadable space) : BuildKeeps space IsHead (Canonical space) where
  empty := Or.inl rfl
  build := canonical_build hspace

/-- **What is read is canonical.** -/
theorem canonical_parse (hspace : IsReadable space) (text : String) :
    Canonical space (parse space text) :=
  (buildKeeps_canonical hspace).holds_parse fun _ hn => Or.inr (tidy_of_mem_scan hn)

end ApiOutline.TypeExpr
