import ApiOutline.Proofs.Toml.Reading
import ApiOutline.Proofs.Toml.Table
import ApiOutline.Settings.Load
import ApiOutline.Settings.Save

/-!
# The table of saved settings

The document that settings are saved in describes one table, in which every setting with a value has its entry.

* `documentEntries`, `outputEntries`, `outlineEntries`, `namingEntries`, `filterEntries`, `wrapperEntries`: the entries
  of each kind of settings.
* `savedTable`, `table?_write`: the table, and that the document is read as this table.
-/

namespace ApiOutline.Settings

open Toml (IsBareName Section integerMax ofSections? pairsOf table?)

/-! ## Entries -/

/-- The entry of a setting with a value. -/
def entryIfSome {α : Type} (key : String) (value : α → Toml.Value) (a : Option α) : List (String × Toml.Value) :=
  a.toList.map fun a => (key, value a)

/-- The entries of the place of the document. -/
def documentEntries (document : Option String) : List (String × Toml.Value) :=
  entryIfSome "document" .text document

/-- The entries of output settings. -/
def outputEntries (o : OutputSettings) : List (String × Toml.Value) :=
  [("dir", .text o.dir), ("format", .text o.layout.name), ("view", .bool o.view)]

/-- The entries of the settings of an outline that are no tables. -/
def outlineEntries (o : OutlineSettings) : List (String × Toml.Value) :=
  ("methods", textsValue (o.verbs.map Verb.name)) :: entryIfSome "model_namespace" .text o.modelNamespace

/-- The entries of naming rules. -/
def namingEntries (r : NamingRules) : List (String × Toml.Value) :=
  entryIfSome "tag_index" numberValue r.tagIndex ++ [("api_cut", .array (r.cut.map numberValue))] ++
    entryIfSome "base_name" .text r.baseName ++ entryIfSome "base_url" .text r.baseUrl

/-- The entries of a filter. -/
def filterEntries (f : PathFilter) : List (String × Toml.Value) :=
  [("paths", textsValue f.paths), ("exclude_paths", textsValue f.excluded)]

/-- The entries of wrappers. -/
def wrapperEntries (wrappers : NameMap String) : List (String × Toml.Value) :=
  wrappers.entries.map fun w => (w.1, .text w.2)

theorem pairIfSome_eq {α : Type} (key : String) (value : α → Toml.Value) (a : Option α) :
    pairIfSome key value a = pairsOf (entryIfSome key value a) := by
  cases a <;> rfl

theorem pairsOf_append (es es' : List (String × Toml.Value)) : pairsOf (es ++ es') = pairsOf es ++ pairsOf es' :=
  List.map_append

/-- Every section has the pairs of the entries of one kind of settings. -/
theorem sections_eq (c : Settings) : c.sections =
    [⟨["source"], false, pairsOf (documentEntries c.document)⟩,
     ⟨["output"], false, pairsOf (outputEntries c.output)⟩,
     ⟨["codegen"], false, pairsOf (outlineEntries c.outline)⟩,
     ⟨["codegen", "naming"], false, pairsOf (namingEntries c.outline.naming)⟩,
     ⟨["codegen", "filter"], false, pairsOf (filterEntries c.outline.filter)⟩,
     ⟨["codegen", "generic_wrappers"], false, pairsOf (wrapperEntries c.outline.wrappers)⟩] := by
  simp only [sections, documentEntries, outlineEntries, namingEntries, wrapperEntries, pairIfSome_eq, pairsOf_append]
  simp [pairsOf, outputEntries, filterEntries, pair]

/-! ## The document is read -/

theorem isFlat_pairsOf {path : List String} {es : List (String × Toml.Value)} (hpath : path ≠ [])
    (hlength : path.length < Toml.depthLimit) (hnames : ∀ name ∈ path, IsBareName name) (h : ∀ e ∈ es, e.2.IsFlat) :
    (⟨path, false, pairsOf es⟩ : Section).IsFlat where
  path_ne_nil := hpath
  length_path := hlength
  path := hnames
  repeated := rfl
  pairs := List.forall_mem_map.mpr fun e he => ⟨rfl, h e he⟩

theorem isFlat_entryIfSome {α : Type} {key : String} {value : α → Toml.Value} {a : Option α}
    (h : ∀ b ∈ a, (value b).IsFlat) : ∀ e ∈ entryIfSome key value a, e.2.IsFlat :=
  List.forall_mem_map.mpr fun b hb => h b (Option.mem_toList.mp hb)

theorem isFlat_textsValue (texts : List String) : (textsValue texts).IsFlat :=
  List.forall_mem_map.mpr fun _ _ => trivial

theorem isAtom_numberValue {n : Nat} (h : n ≤ integerMax) : (numberValue n).IsAtom :=
  ⟨Int.natCast_nonneg n, Int.ofNat_le.mpr h⟩

theorem isFlat_documentEntries (document : Option String) : ∀ e ∈ documentEntries document, e.2.IsFlat :=
  isFlat_entryIfSome fun _ _ => trivial

theorem isFlat_outputEntries (o : OutputSettings) : ∀ e ∈ outputEntries o, e.2.IsFlat := by
  simp [outputEntries, Toml.Value.IsFlat, Toml.Value.IsAtom]

theorem isFlat_outlineEntries (o : OutlineSettings) : ∀ e ∈ outlineEntries o, e.2.IsFlat :=
  List.forall_mem_cons.mpr ⟨isFlat_textsValue _, isFlat_entryIfSome fun _ _ => trivial⟩

theorem isFlat_namingEntries {r : NamingRules} (htag : ∀ n ∈ r.tagIndex, n ≤ integerMax)
    (hcut : ∀ n ∈ r.cut, n ≤ integerMax) : ∀ e ∈ namingEntries r, e.2.IsFlat := by
  have htext : ∀ key a, ∀ e ∈ entryIfSome key .text a, e.2.IsFlat := fun _ _ => isFlat_entryIfSome fun _ _ => trivial
  simp only [namingEntries, List.forall_mem_append, List.forall_mem_singleton]
  refine ⟨⟨⟨isFlat_entryIfSome fun n hn => isAtom_numberValue (htag n hn), ?_⟩, htext _ _⟩, htext _ _⟩
  exact List.forall_mem_map.mpr fun n hn => isAtom_numberValue (hcut n hn)

theorem isFlat_filterEntries (f : PathFilter) : ∀ e ∈ filterEntries f, e.2.IsFlat := by
  simp [filterEntries, isFlat_textsValue]

theorem isFlat_wrapperEntries (wrappers : NameMap String) : ∀ e ∈ wrapperEntries wrappers, e.2.IsFlat :=
  List.forall_mem_map.mpr fun _ _ => trivial

variable {c : Settings}

theorem isFlat_naming (h : ∀ n ∈ c.numbers, n ≤ integerMax) : ∀ e ∈ namingEntries c.outline.naming, e.2.IsFlat :=
  isFlat_namingEntries (fun n hn => h n (List.mem_append_left _ (Option.mem_toList.mpr hn)))
    fun n hn => h n (List.mem_append_right _ hn)

/-- The sections can be read, if no number is too large. -/
theorem isFlat_of_mem_sections (h : ∀ n ∈ c.numbers, n ≤ integerMax) : ∀ s ∈ c.sections, s.IsFlat := by
  rw [sections_eq]
  simp only [List.forall_mem_cons, List.not_mem_nil, false_implies, implies_true, and_true]
  exact ⟨isFlat_pairsOf (by decide) (by decide) (by decide) (isFlat_documentEntries _),
    isFlat_pairsOf (by decide) (by decide) (by decide) (isFlat_outputEntries _),
    isFlat_pairsOf (by decide) (by decide) (by decide) (isFlat_outlineEntries _),
    isFlat_pairsOf (by decide) (by decide) (by decide) (isFlat_naming h),
    isFlat_pairsOf (by decide) (by decide) (by decide) (isFlat_filterEntries _),
    isFlat_pairsOf (by decide) (by decide) (by decide) (isFlat_wrapperEntries _)⟩

/-! ## The table -/

/-- The table of saved settings. -/
def savedTable (c : Settings) : List (String × Toml.Value) :=
  [("source", .table (documentEntries c.document)),
   ("output", .table (outputEntries c.output)),
   ("codegen", .table (outlineEntries c.outline ++
    [("naming", .table (namingEntries c.outline.naming)),
     ("filter", .table (filterEntries c.outline.filter)),
     ("generic_wrappers", .table (wrapperEntries c.outline.wrappers))]))]

/-! ## Keys -/

/-- The names of all settings. -/
def settingNames : List String :=
  ["source", "output", "codegen", "document", "dir", "format", "view", "methods", "model_namespace", "naming", "filter",
    "generic_wrappers", "tag_index", "api_cut", "base_name", "base_url", "paths", "exclude_paths"]

theorem mem_settingNames_of_entryIfSome {α : Type} {key : String} {value : α → Toml.Value} {a : Option α}
    (hkey : key ∈ settingNames) : ∀ k ∈ keysOf (entryIfSome key value a), k ∈ settingNames := by
  cases a with
  | none => exact fun k hk => absurd hk List.not_mem_nil
  | some _ => exact List.forall_mem_singleton.mpr hkey

theorem mem_settingNames_of_outlineEntries (o : OutlineSettings) : ∀ k ∈ keysOf (outlineEntries o), k ∈ settingNames :=
  List.forall_mem_cons.mpr ⟨(by decide : "methods" ∈ settingNames), mem_settingNames_of_entryIfSome (by decide)⟩

theorem mem_settingNames_of_namingEntries (r : NamingRules) : ∀ k ∈ keysOf (namingEntries r), k ∈ settingNames := by
  simp only [namingEntries, keysOf_append, List.forall_mem_append]
  have hcut : "api_cut" ∈ settingNames := by decide
  exact ⟨⟨⟨mem_settingNames_of_entryIfSome (by decide), List.forall_mem_singleton.mpr hcut⟩,
    mem_settingNames_of_entryIfSome (by decide)⟩, mem_settingNames_of_entryIfSome (by decide)⟩

theorem keysOf_outputEntries (o : OutputSettings) : keysOf (outputEntries o) = ["dir", "format", "view"] := rfl

theorem keysOf_filterEntries (f : PathFilter) : keysOf (filterEntries f) = ["paths", "exclude_paths"] := rfl

/-! Every kind of settings has entries with keys of their own. -/

theorem nodup_keysOf_entryIfSome {α : Type} (key : String) (value : α → Toml.Value) (a : Option α) :
    (keysOf (entryIfSome key value a)).Nodup := by
  cases a <;> simp [entryIfSome, keysOf]

theorem nodup_outlineEntries (o : OutlineSettings) : (keysOf (outlineEntries o)).Nodup := by
  cases h : o.modelNamespace <;> simp [outlineEntries, h, entryIfSome, keysOf]

/-- The tables inside the one for outlines have other keys than its entries. -/
theorem nodup_innerKeys (o : OutlineSettings) :
    (keysOf (outlineEntries o) ++ ["naming", "filter", "generic_wrappers"]).Nodup := by
  cases h : o.modelNamespace <;> simp [outlineEntries, h, entryIfSome, keysOf]

theorem nodup_namingEntries (r : NamingRules) : (keysOf (namingEntries r)).Nodup := by
  obtain ⟨tag, cut, name, url⟩ := r
  cases tag <;> cases name <;> cases url <;> simp [namingEntries, entryIfSome, keysOf]

theorem nodup_wrapperEntries (wrappers : NameMap String) : (keysOf (wrapperEntries wrappers)).Nodup := by
  rw [keysOf, wrapperEntries, List.map_map]
  exact List.pairwise_map.mpr (wrappers.ascending.imp fun h => String.ne_of_lt h)

theorem ofSections?_sections (c : Settings) : ofSections? (⟨[], false, []⟩ :: c.sections) = some c.savedTable := by
  have houter : ∀ t ∈ [("source", documentEntries c.document), ("output", outputEntries c.output)] ++
      [("codegen", outlineEntries c.outline)], (keysOf t.2).Nodup := by
    simp [documentEntries, nodup_keysOf_entryIfSome, keysOf_outputEntries, nodup_outlineEntries]
  have hnames : (keysOf ([("source", documentEntries c.document), ("output", outputEntries c.output)] ++
      [("codegen", outlineEntries c.outline)])).Nodup := by
    simp [keysOf]
  have hinner : ∀ t ∈ [("naming", namingEntries c.outline.naming), ("filter", filterEntries c.outline.filter),
      ("generic_wrappers", wrapperEntries c.outline.wrappers)], (keysOf t.2).Nodup := by
    simp [nodup_namingEntries, keysOf_filterEntries, nodup_wrapperEntries]
  have hkeys : (keysOf (outlineEntries c.outline) ++ keysOf [("naming", namingEntries c.outline.naming),
      ("filter", filterEntries c.outline.filter), ("generic_wrappers", wrapperEntries c.outline.wrappers)]).Nodup :=
    nodup_innerKeys c.outline
  have h := Toml.ofSections?_outer_inner houter hnames hinner hkeys
  rw [sections_eq]
  exact h

/-! ## The document as a whole -/

theorem save_eq_ok (h : ∀ n ∈ c.numbers, n ≤ integerMax) : c.save = .ok (Toml.write c.sections) := by
  rw [save, List.find?_eq_none.mpr fun n hn => by simpa using h n hn]

/-- **Settings cannot be saved if one of their numbers is too large.** -/
theorem save_eq_error {n : Nat} (hn : n ∈ c.numbers) (h : integerMax < n) : ∃ e, c.save = .error e := by
  have hfound : (c.numbers.find? (integerMax < ·)).isSome = true := List.find?_isSome.mpr ⟨n, hn, decide_eq_true h⟩
  obtain ⟨m, hm⟩ := Option.isSome_iff_exists.mp hfound
  exact ⟨⟨m⟩, by rw [save, hm]⟩

/-- **The document is read as the table of the settings.** -/
theorem table?_write (h : ∀ n ∈ c.numbers, n ≤ integerMax) : table? (Toml.write c.sections) = some c.savedTable := by
  have hread := Toml.sections?_write (isFlat_of_mem_sections h)
  -- the document begins with a bracket
  have hmark : Text.withoutMark (Toml.write c.sections).toList = (Toml.write c.sections).toList := by
    rw [Toml.write, String.toList_ofList]
    rfl
  rw [table?, hmark, hread]
  exact ofSections?_sections c

end ApiOutline.Settings
