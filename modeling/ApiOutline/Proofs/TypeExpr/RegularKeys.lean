import ApiOutline.Proofs.TypeExpr.Abstraction
import ApiOutline.Proofs.TypeExpr.Namespace

/-!
# The keys whose definitions and references agree

The model of a definition is named by one reading of its key, the text before the first opener if the key is generic.
A reference to the definition gets its type by another one, the key as a type text.  The first looks for openers alone;
the second stops at any delimiter and leaves white space out.  Both give the same name exactly for keys that are regular:
a plain name, or a generic key whose first delimiter is an opener with a name before it.

* `TypeExpr.IsModel`, `Builtin.StandsFor`: the types that carry the name of a model, or of a builtin.
* `NamedAlike`: the two readings of a key agree.
* `IsRegular`: the shape of the keys for which they do.
* `namedAlike_iff_isRegular`: the main statement.
-/

namespace ApiOutline

open TypeExpr Token Text

/-! ## The types that carry a name -/

/-- The type is the model `n`, with or without arguments. -/
inductive TypeExpr.IsModel (n : String) : TypeExpr → Prop where
  | model : IsModel n (.model n)
  | generic (args : List TypeExpr) : IsModel n (.generic n args)

/-- The types that a builtin stands for, whatever the arguments are that it is given. -/
inductive Builtin.StandsFor : Builtin → TypeExpr → Prop where
  | array (item : TypeExpr) : StandsFor .array (.array item)
  | record (key value : TypeExpr) : StandsFor .record (.map key value)
  | scalar {b : Builtin} (h : b.isCollection = false) : StandsFor b (.scalar b)

theorem TypeExpr.IsModel.mem_modelNames {n : String} {e : TypeExpr} (h : e.IsModel n) : n ∈ e.modelNames := by
  cases h with
  | model => exact List.mem_singleton_self n
  | generic args => exact List.mem_cons_self

theorem Builtin.StandsFor.not_isModel {b : Builtin} {n : String} {e : TypeExpr} (h : b.StandsFor e) :
    ¬ e.IsModel n := by
  cases h <;> rintro ⟨⟩

/-- A name of a builtin becomes a type that the builtin stands for. -/
theorem Builtin.standsFor_build {n : String} {b : Builtin} (h : ofName? n = some b) (args : List TypeExpr) :
    b.StandsFor (build none n args) := by
  rw [build_of_ofName? args h]
  cases b with
  | array =>
    cases args with
    | nil => exact .array _
    | cons item _ => exact .array item
  | record =>
    rcases args with _ | ⟨_, _ | ⟨_, _⟩⟩
    · exact .record _ _
    · exact .record _ _
    · exact .record _ _
  | _ => exact .scalar rfl

/-- A name that is no builtin becomes the model of that name. -/
theorem TypeExpr.isModel_build {n : String} (hne : n ≠ "") (hforeign : Builtin.ofName? n = none)
    (args : List TypeExpr) : (build none n args).IsModel n := by
  rw [build_of_foreign (unqualify_none n) hne hforeign]
  split
  · exact .model
  · exact .generic args

/-! ## Agreement -/

/-- The type that a reference to the key gets carries the name that the definition with this key is registered under. -/
structure NamedAlike (key : String) : Prop where
  builtin : ∀ b, Builtin.ofName? (modelName key) = some b → b.StandsFor (parse none key)
  model : Builtin.ofName? (modelName key) = none → (parse none key).IsModel (modelName key)

/-- The regular keys: those that are plain names, and the generic ones whose first delimiter is an opener with a name
before it. -/
inductive IsRegular (key : String) : Prop where
  | name (h : Tidy key.toList)
  | generic {head : String} (hgeneric : isGenericKey key = true) (hhead : HeadedBy key head)

/-- A key that is read as its model name, with or without arguments, is named alike. -/
theorem NamedAlike.of_parse_eq {key : String} {args : List TypeExpr} (hne : modelName key ≠ "")
    (hparse : parse none key = build none (modelName key) args) : NamedAlike key where
  builtin b hb := by
    rw [hparse]
    exact Builtin.standsFor_build hb args
  model hforeign := by
    rw [hparse]
    exact isModel_build hne hforeign args

/-- **Regular keys are named alike.** -/
theorem IsRegular.namedAlike {key : String} (h : IsRegular key) : NamedAlike key := by
  cases h with
  | name htidy =>
    have hname : modelName key = key := modelName_of_tidy htidy
    have hparse : parse none key = build none (modelName key) [] := by
      rw [parse_of_plain none htidy.plain, htidy.trimmed, String.ofList_toList, hname]
    refine .of_parse_eq ?_ hparse
    rw [hname]
    exact fun hempty => htidy.ne_nil (String.toList_eq_nil_iff.mpr hempty)
  | @generic head hgeneric hhead =>
    have hname : modelName key = head := by
      rw [modelName, if_pos hgeneric, headName_eq_of_headedBy hhead]
    obtain ⟨before, o, rest, hkey, hplain, ho, rfl, hne⟩ := hhead
    obtain ⟨args, -, hparse⟩ := parse_of_opener none hkey hplain ho
    rw [← hname] at hne hparse
    exact .of_parse_eq hne hparse

/-! ## The shape of keys that are named alike -/

theorem Builtin.tidy_of_ofName? {n : String} {b : Builtin} (h : ofName? n = some b) : Tidy n.toList := by
  have htable : ∀ p ∈ table, Tidy p.1.toList := by decide
  have hall : ∀ b ∈ all, Tidy b.canonical.toList := by decide
  exact of_ofName? (P := fun n => Tidy n.toList) htable hall h

/-- A key that is named alike has a model name that is a name. -/
theorem NamedAlike.tidy_modelName {key : String} (h : NamedAlike key) : Tidy (modelName key).toList := by
  cases hname : Builtin.ofName? (modelName key) with
  | some b => exact Builtin.tidy_of_ofName? hname
  | none => exact (modelName_of_mem_parse (h.model hname).mem_modelNames).tidy_of_none

theorem isBlank_eq_false_of_delimiter? {c : Char} {d : Token} (h : delimiter? c = some d) : isBlank c = false := by
  have hc : c ∈ ['«', '»', '<', '>', ','] := by
    by_contra hnot
    rw [delimiter?_eq_none_iff.mpr hnot] at h
    exact absurd h (by simp)
  have hall : ['«', '»', '<', '>', ','].all (fun c => !isBlank c) = true := by decide
  simpa using List.all_eq_true.mp hall c hc

/-- Delimiters are no white space, so none is lost with the white space at the ends of a text. -/
theorem plain_of_plain_trimChars {cs : List Char} (h : Plain (trimChars cs)) : Plain cs := by
  intro c hc
  cases hd : delimiter? c with
  | none => rfl
  | some d =>
    have hkept : c ∈ trimChars cs := mem_trimChars hc (isBlank_eq_false_of_delimiter? hd)
    rw [h c hkept] at hd
    exact absurd hd (by simp)

/-- A generic key holds an opener, so there is a first one. -/
theorem exists_opener_of_isGenericKey {key : String} (h : isGenericKey key = true) :
    ∃ o rest, key.toList = (key.toList.takeWhile fun c => c != '«' && c != '<') ++ o :: rest ∧
      delimiter? o = some .opener := by
  have hmem : ∃ c ∈ key.toList, (c != '«' && c != '<') = false := by
    simp only [isGenericKey, Bool.or_eq_true, Bool.and_eq_true, List.contains_iff_mem] at h
    rcases h with ⟨hopener, -⟩ | ⟨hopener, -⟩
    · exact ⟨'«', hopener, rfl⟩
    · exact ⟨'<', hopener, rfl⟩
  cases hrest : key.toList.dropWhile fun c => c != '«' && c != '<' with
  | nil =>
    obtain ⟨c, hc, hopener⟩ := hmem
    rw [List.dropWhile_eq_nil_iff] at hrest
    rw [hrest c hc] at hopener
    exact absurd hopener (by simp)
  | cons o rest =>
    have hopener : (o != '«' && o != '<') = false := by
      have hfirst := List.head?_dropWhile_not (fun c => c != '«' && c != '<') key.toList
      rw [hrest] at hfirst
      simpa using hfirst
    have ho : o = '«' ∨ o = '<' :=
      (Bool.and_eq_false_iff.mp hopener).imp bne_eq_false_iff_eq.mp bne_eq_false_iff_eq.mp
    refine ⟨o, rest, ?_, ?_⟩
    · rw [← hrest, List.takeWhile_append_dropWhile]
    · rw [delimiter?, if_pos ho]

/-- **Keys that are named alike are regular.** -/
theorem NamedAlike.isRegular {key : String} (h : NamedAlike key) : IsRegular key := by
  have htidy : Tidy (modelName key).toList := h.tidy_modelName
  cases hgeneric : isGenericKey key with
  | false =>
    rw [modelName, hgeneric, if_neg (by simp)] at htidy
    exact .name htidy
  | true =>
    rw [modelName, hgeneric, if_pos rfl, headName, String.toList_ofList] at htidy
    obtain ⟨o, rest, hkey, ho⟩ := exists_opener_of_isGenericKey hgeneric
    have hne : String.ofList (trimChars (key.toList.takeWhile fun c => c != '«' && c != '<')) ≠ "" := by
      intro hempty
      rw [← String.toList_eq_nil_iff, String.toList_ofList] at hempty
      exact htidy.ne_nil hempty
    exact .generic hgeneric ⟨_, o, rest, hkey, plain_of_plain_trimChars htidy.plain, ho, rfl, hne⟩

/-- **The keys that are named alike are the regular ones.** -/
theorem namedAlike_iff_isRegular {key : String} : NamedAlike key ↔ IsRegular key :=
  ⟨NamedAlike.isRegular, IsRegular.namedAlike⟩

end ApiOutline
