import ApiOutline.Proofs.Except
import ApiOutline.Proofs.Settings.Layer
import Mathlib.Data.List.Sort

/-!
# Loading saved settings

Settings that have been saved are loaded again from the document, which may be read several times.  A text, a number, a
truth value or a list of them is taken for what it was written from.  A namespace that is not saved has its default when
it is loaded, and the names of wrappers come back in lower case, like all keys; of names that agree there the last one
counts.

* `namingOf_namingEntries`, `outlineOf_outlineEntries`, `ofEntries_savedLayer`: what each kind of settings is read as.
* `reread`, `Lowered`: the settings that are loaded, and their wrappers.
* `Lowered.exists_of_mem`, `Lowered.eq_of_foldKey_eq`: where loaded wrappers come from, and wrappers that come back unchanged.
* `load_saved`, `load_saved_moment`: the main statements.
-/

namespace ApiOutline.Settings

open Toml (integerMax)

variable {c : Settings}

/-! ## Single settings -/

theorem sizeOf_natCast (n : Nat) : sizeOf (.integer n) = .ok n := by
  rw [sizeOf, if_pos (Int.natCast_nonneg n)]
  rfl

theorem listOf_sizes (ns : List Nat) : listOf sizeOf (.ofFlat (.array (ns.map numberValue))) = .ok ns := by
  rw [Value.ofFlat, listOf, List.map_map]
  exact mapM_eq_ok fun n _ => sizeOf_natCast n

theorem listOf_texts (texts : List String) : listOf textOf (.ofFlat (textsValue texts)) = .ok texts := by
  rw [textsValue, Value.ofFlat, listOf, List.map_map]
  exact mapM_eq_ok fun _ _ => rfl

/-- A variant is found under its name, if the names of all variants are different and in lower case. -/
theorem variantOf_name {α : Type} {variants : List (String × α)} (type : String) (hkeys : (keysOf variants).Nodup)
    (hnames : ∀ v ∈ variants, lowered v.1 = v.1) {v : String × α} (hv : v ∈ variants) :
    variantOf type variants v.1 = .ok v.2 := by
  have hfound : (variants.find? fun u => lowered u.1 == lowered v.1).isSome = true :=
    List.find?_isSome.mpr ⟨v, hv, beq_self_eq_true _⟩
  obtain ⟨u, hu⟩ := Option.isSome_iff_exists.mp hfound
  have humem := List.mem_of_find?_eq_some hu
  have hname : u.1 = v.1 := by
    have hlowered := List.find?_some hu
    rwa [beq_iff_eq, hnames u humem, hnames v hv] at hlowered
  have hvalue : u.2 = v.2 := Option.some.inj <| by
    rw [← lookup_of_mem hkeys humem, hname, lookup_of_mem hkeys hv]
  rw [variantOf, hu, ← hvalue]

theorem namedOf_verb (v : Verb) : namedOf "HttpMethod" Verb.variants (.text v.name) = .ok v := by
  have hchars : ∀ u ∈ Verb.variants, u.1.toList.all isNameChar = true := by decide
  exact variantOf_name "HttpMethod" (by decide) (fun u hu => foldKey_eq_self (hchars u hu))
    (v := (v.name, v)) (List.mem_map_of_mem (by cases v <;> decide))

theorem namedOf_layout (layout : Layout) :
    namedOf "OutputFormat" Layout.variants (.text layout.name) = .ok layout := by
  have hchars : ∀ u ∈ Layout.variants, u.1.toList.all isNameChar = true := by decide
  exact variantOf_name "OutputFormat" (by decide) (fun u hu => foldKey_eq_self (hchars u hu))
    (v := (layout.name, layout)) (by cases layout <;> decide)

theorem listOf_verbs (verbs : List Verb) :
    listOf (namedOf "HttpMethod" Verb.variants) (.ofFlat (textsValue (verbs.map Verb.name))) = .ok verbs := by
  rw [textsValue, Value.ofFlat, listOf, List.map_map, List.map_map]
  exact mapM_eq_ok fun v _ => namedOf_verb v

/-! ## Records -/

section

variable {α β : Type} {type : String} {start : α} {fields : List (Setting α)} {es : List (String × Value)} {name : String}
  {take : Value → Except Misfit β}

theorem recordOf_last {set : β → α → α} {v : Value} (hlookup : es.lookup name = some v) :
    recordOf type start [.of name take set] (.table es) = (take v).map (set · start) := by
  rw [recordOf, List.foldlM_cons]
  simp only [Setting.of, hlookup]
  cases take v <;> rfl

theorem recordOf_of {set : β → α → α} {v : Value} {b : β} (hlookup : es.lookup name = some v) (htake : take v = .ok b) :
    recordOf type start (.of name take set :: fields) (.table es) = recordOf type (set b start) fields (.table es) := by
  rw [recordOf, List.foldlM_cons]
  simp only [Setting.of, hlookup, htake]
  rfl

theorem recordOf_absent {set : Option β → α → α} (hlookup : es.lookup name = none) :
    recordOf type start (.optional name take set :: fields) (.table es) = recordOf type start fields (.table es) := by
  rw [recordOf, List.foldlM_cons]
  simp only [Setting.optional, hlookup]
  rfl

theorem recordOf_present {set : Option β → α → α} {v : Value} {b : β} (hlookup : es.lookup name = some v)
    (hgap : v ≠ .gap) (htake : take v = .ok b) :
    recordOf type start (.optional name take set :: fields) (.table es) =
      recordOf type (set (some b) start) fields (.table es) := by
  rw [recordOf, List.foldlM_cons]
  simp only [Setting.optional, hlookup]
  cases v with
  | gap => exact absurd rfl hgap
  | _ => simp only [htake]; rfl

/-- A setting that need not have a value, where leaving it out is the same as to set no value. -/
theorem recordOf_optional {set : Option β → α → α} {value : β → Value} {a : Option β}
    (hlookup : es.lookup name = a.map value) (hgap : ∀ b, value b ≠ .gap) (htake : ∀ b, take (value b) = .ok b)
    (hstart : set none start = start) :
    recordOf type start (.optional name take set :: fields) (.table es) = recordOf type (set a start) fields (.table es) := by
  cases a with
  | none => rw [recordOf_absent hlookup, hstart]
  | some b => exact recordOf_present hlookup (hgap b) (htake b)

end

theorem lookup_plainEntries (es : List (String × Toml.Value)) (key : String) :
    (plainEntries es).lookup key = (es.lookup key).map .ofFlat := by
  induction es with
  | nil => rfl
  | cons e es ih =>
    rw [plainEntries, List.map_cons, lookup_pair, lookup_pair]
    split
    · rfl
    · exact ih

theorem lookup_entryIfSome {α : Type} (key key' : String) (value : α → Toml.Value) (a : Option α) :
    (entryIfSome key value a).lookup key' = if key' = key then a.map value else none := by
  cases a <;> simp [entryIfSome, lookup_pair]

theorem sourceOf_documentEntries (document : Option String) :
    sourceOf (.table (plainEntries (documentEntries document))) = .ok document := by
  cases document <;> rfl

theorem outputOf_outputEntries (o : OutputSettings) : outputOf (.table (plainEntries (outputEntries o))) = .ok o := by
  rw [outputOf, recordOf_of (b := o.dir) rfl rfl, recordOf_of rfl (namedOf_layout o.layout),
    recordOf_of (b := o.view) rfl rfl]
  rfl

theorem filterOf_filterEntries (f : PathFilter) : filterOf (.table (plainEntries (filterEntries f))) = .ok f := by
  rw [filterOf, recordOf_of rfl (listOf_texts f.paths), recordOf_of rfl (listOf_texts f.excluded)]
  rfl

theorem lookup_namingEntries (r : NamingRules) :
    (plainEntries (namingEntries r)).lookup "tag_index" = r.tagIndex.map (.ofFlat ∘ numberValue) ∧
      (plainEntries (namingEntries r)).lookup "api_cut" = some (.ofFlat (.array (r.cut.map numberValue))) ∧
      (plainEntries (namingEntries r)).lookup "base_name" = r.baseName.map (.ofFlat ∘ .text) ∧
      (plainEntries (namingEntries r)).lookup "base_url" = r.baseUrl.map (.ofFlat ∘ .text) := by
  simp [lookup_plainEntries, namingEntries, List.lookup_append, lookup_entryIfSome, lookup_pair]

theorem namingOf_namingEntries (r : NamingRules) : namingOf (.table (plainEntries (namingEntries r))) = .ok r := by
  obtain ⟨htag, hcut, hname, hurl⟩ := lookup_namingEntries r
  rw [namingOf, recordOf_optional htag (fun _ => Value.noConfusion) sizeOf_natCast rfl,
    recordOf_of hcut (listOf_sizes r.cut), recordOf_optional hname (fun _ => Value.noConfusion) (fun _ => rfl) rfl,
    recordOf_optional hurl (fun _ => Value.noConfusion) (fun _ => rfl) rfl]
  rfl

/-! ## All settings -/

/-- The settings as they are read again, with the wrappers `wrappers`.  Where no namespace is saved, the usual one is
read. -/
def reread (c : Settings) (wrappers : NameMap String) : Settings :=
  { c with outline := { c.outline with
      modelNamespace := some (c.outline.modelNamespace.getD "models"), wrappers := wrappers } }

/-- Only the namespace and the wrappers can be read as others. -/
theorem reread_self (h : c.outline.modelNamespace ≠ none) : c.reread c.outline.wrappers = c := by
  obtain ⟨space, hspace⟩ := Option.ne_none_iff_exists'.mp h
  rw [reread, hspace, Option.getD_some, ← hspace]

theorem lookup_outlineEntries (o : OutlineSettings) (naming filter wrappers : Value) :
    let es := plainEntries (outlineEntries o) ++ [("naming", naming), ("filter", filter), ("generic_wrappers", wrappers)]
    es.lookup "naming" = some naming ∧ es.lookup "filter" = some filter ∧
      es.lookup "methods" = some (.ofFlat (textsValue (o.verbs.map Verb.name))) ∧
      es.lookup "model_namespace" = o.modelNamespace.map (.ofFlat ∘ .text) ∧
      es.lookup "generic_wrappers" = some wrappers := by
  simp [lookup_plainEntries, outlineEntries, List.lookup_append, lookup_entryIfSome, lookup_pair]

/-- **The settings of an outline are read from the layer as they were, but for their wrappers.** -/
theorem outlineOf_outlineEntries (o : OutlineSettings) (w : Value) :
    outlineOf (.table (plainEntries (outlineEntries o) ++
      [("naming", .table (plainEntries (namingEntries o.naming))),
       ("filter", .table (plainEntries (filterEntries o.filter))), ("generic_wrappers", w)])) =
      (mapOf w).map fun wrappers =>
        { o with modelNamespace := some (o.modelNamespace.getD "models"), wrappers := wrappers } := by
  obtain ⟨hnaming, hfilter, hverbs, hnamespace, hwrappers⟩ := lookup_outlineEntries o
    (.table (plainEntries (namingEntries o.naming))) (.table (plainEntries (filterEntries o.filter))) w
  rw [outlineOf, recordOf_of hnaming (namingOf_namingEntries _), recordOf_of hfilter (filterOf_filterEntries _),
    recordOf_of hverbs (listOf_verbs _)]
  -- where no namespace is saved, the one that the reading starts with stays
  cases h : o.modelNamespace with
  | none =>
    rw [h] at hnamespace
    rw [recordOf_absent hnamespace, recordOf_last hwrappers]
    rfl
  | some saved =>
    have htext : textOf (.text saved) = .ok saved := rfl
    rw [h] at hnamespace
    rw [recordOf_present hnamespace Value.noConfusion htext, recordOf_last hwrappers]
    rfl

/-- **The layer of saved settings is read as these settings, but for their wrappers.** -/
theorem ofEntries_savedLayer (c : Settings) (w : Value) :
    ofEntries (c.savedLayer w) = (mapOf w).map c.reread := by
  rw [ofEntries, savedLayer, recordOf_of rfl (sourceOf_documentEntries _), recordOf_of rfl (outputOf_outputEntries _),
    recordOf_last rfl, outlineOf_outlineEntries]
  cases mapOf w <;> rfl

/-! ## Wrappers -/

/-- The wrappers `loaded` are the wrappers `saved` with their names in lower case.  Of several names that are the same
in lower case, the last one has its value kept. -/
structure Lowered (saved loaded : NameMap String) : Prop where
  names : ∀ name, name ∈ loaded.names ↔ ∃ given ∈ saved.names, foldKey given = name
  last : ∀ {before given after}, saved.entries = before ++ given :: after →
    (∀ later ∈ after, foldKey later.1 ≠ foldKey given.1) → loaded.get? (foldKey given.1) = some given.2

variable {saved loaded : NameMap String}

/-- Every wrapper that is loaded is one that has been saved, with its name in lower case. -/
theorem Lowered.exists_of_mem (h : Lowered saved loaded) {e : String × String} (he : e ∈ loaded.entries) :
    ∃ given ∈ saved.entries, (foldKey given.1, given.2) = e := by
  obtain ⟨name, hname, hfold⟩ := (h.names e.1).mp (List.mem_map_of_mem he)
  obtain ⟨known, hknown, rfl⟩ := List.mem_map.mp hname
  -- the last saved wrapper with this name in lower case is the first one from behind
  have hsome : (saved.entries.reverse.find? fun given => foldKey given.1 = e.1).isSome = true :=
    List.find?_isSome.mpr ⟨known, List.mem_reverse.mpr hknown, decide_eq_true hfold⟩
  obtain ⟨given, hfind⟩ := Option.isSome_iff_exists.mp hsome
  obtain ⟨hgiven, after, before, hreverse, hafter⟩ := List.find?_eq_some_iff_append.mp hfind
  have hentries : saved.entries = before.reverse ++ given :: after.reverse := by
    rw [← List.reverse_reverse saved.entries, hreverse]
    simp
  have hkey : foldKey given.1 = e.1 := of_decide_eq_true hgiven
  have hlast := h.last hentries fun later hlater heq => by
    simpa [hkey ▸ heq] using hafter later (List.mem_reverse.mp hlater)
  rw [hkey] at hlast
  have hvalue : some given.2 = some e.2 := hlast.symm.trans (lookup_of_mem loaded.nodup_names he)
  exact ⟨given, List.mem_reverse.mp (List.mem_of_find?_eq_some hfind), Prod.ext hkey (Option.some.inj hvalue)⟩

/-- **Wrappers whose names are in lower case come back unchanged.** -/
theorem Lowered.eq_of_foldKey_eq (h : Lowered saved loaded) (hlower : ∀ name ∈ saved.names, foldKey name = name) :
    loaded = saved := by
  have hnames : loaded.names = saved.names := by
    refine loaded.pairwise_names.eq_of_mem_iff saved.pairwise_names fun name => (h.names name).trans ?_
    constructor
    · rintro ⟨given, hgiven, rfl⟩
      rwa [hlower given hgiven]
    · exact fun hname => ⟨name, hname, hlower name hname⟩
  have hsub : ∀ e ∈ loaded.entries, e ∈ saved.entries := by
    intro e he
    obtain ⟨given, hgiven, rfl⟩ := h.exists_of_mem he
    rwa [hlower given.1 (List.mem_map_of_mem hgiven)]
  refine NameMap.eq_of_entries (eq_of_lookup hnames loaded.nodup_names fun name => ?_)
  by_cases hname : name ∈ loaded.names
  · obtain ⟨e, he, rfl⟩ := List.mem_map.mp hname
    exact (lookup_of_mem loaded.nodup_names he).trans (lookup_of_mem saved.nodup_names (hsub e he)).symm
  · have hsaved : name ∉ saved.names := hnames ▸ hname
    exact (lookup_of_notMem hname).trans (lookup_of_notMem hsaved).symm

theorem mapOf_textEntries (texts : List (String × String)) : mapOf (.table (textEntries texts)) = .ok (.ofList texts) := by
  have hpairs : (textEntries texts).mapM (fun e => (textOf e.2).map (e.1, ·)) = .ok texts := mapM_eq_ok fun _ _ => rfl
  rw [mapOf, hpairs]
  rfl

/-- The map of texts with different names has the value of each name that stands in them. -/
theorem get?_ofList {texts : List (String × String)} (h : (keysOf texts).Nodup) (name : String) :
    (NameMap.ofList texts).get? name = texts.lookup name := by
  by_cases hname : name ∈ keysOf texts
  · obtain ⟨e, he, rfl⟩ := List.mem_map.mp (NameMap.mem_names_ofList.mpr hname)
    exact (lookup_of_mem (NameMap.nodup_names _) he).trans (lookup_of_mem h (NameMap.mem_of_mem_ofList he)).symm
  · rw [lookup_of_notMem hname]
    exact lookup_of_notMem (mt NameMap.mem_names_ofList.mp hname)

theorem lowered_putAll (saved : NameMap String) : Lowered saved (.ofList (putAll saved.entries [])) where
  names name := by
    have hempty : name ∉ keysOf ([] : List (String × String)) := List.not_mem_nil
    rw [NameMap.mem_names_ofList, ← keysOf, mem_keysOf_putAll, or_iff_right hempty, NameMap.names]
    simp
  last hentries hafter := by
    have hnodup : (keysOf (putAll saved.entries [])).Nodup := nodup_putAll List.nodup_nil
    rw [get?_ofList hnodup, hentries, lookup_putAll_append_cons hafter]

/-! ## Loading -/

theorem environmentLayer_eq_nil {environment : List (String × String)} (h : ∀ e ∈ environment, variableKey? e.1 = none) :
    environmentLayer environment = [] :=
  List.filterMap_eq_nil_iff.mpr fun e he => Option.map_eq_none_iff.mpr (h e he)

variable {sources : List Source} {environment : List (String × String)}

/-- Copies of one file come to the same table as one of them. -/
theorem merged_copies {text : String} {w w' : Value} (hlayer : layerOf? text = some (c.savedLayer w)) (h : w.Settles w')
    (hne : sources ≠ []) (hsources : ∀ s ∈ sources, ∃ name, s = .text name text) :
    merged sources = .ok (c.savedLayer w') := by
  have hfold : ∀ entries, entries = [] ∨ entries = c.savedLayer w' → sources ≠ [] ∨ entries = c.savedLayer w' →
      sources.foldlM (fun entries s => s.layer.map fun layer => overlayAll layer entries) entries =
        .ok (c.savedLayer w') := by
    clear hne
    induction sources with
    | nil => exact fun entries _ hlast => congrArg Except.ok (hlast.resolve_left fun hne => hne rfl)
    | cons s sources ih =>
      intro entries hentries _
      obtain ⟨⟨name, rfl⟩, hrest⟩ := List.forall_mem_cons.mp hsources
      have hstep : (Source.text name text).layer.map (fun layer => overlayAll layer entries) =
          .ok (c.savedLayer w') := by
        rw [Source.layer, hlayer]
        exact congrArg Except.ok (overlayAll_savedLayer h hentries)
      rw [List.foldlM_cons, hstep]
      exact ih hrest _ (.inr rfl) (.inr rfl)
  exact hfold [] (.inl rfl) (.inl hne)

/-- The first name of the wrappers is the one that a date or a time stands under. -/
def ReadAsMoment (c : Settings) : Prop :=
  c.outline.wrappers.names.head? = some Value.momentKey

instance (c : Settings) : Decidable c.ReadAsMoment :=
  inferInstanceAs (Decidable (_ = _))

/-- **Settings are loaded from copies of the document that they are saved in**, with their wrappers in lower case. -/
theorem load_saved (h : ∀ n ∈ c.numbers, n ≤ integerMax) (hwrappers : ¬ c.ReadAsMoment) (hne : sources ≠ [])
    (hsources : ∀ s ∈ sources, ∃ name, s = .text name (Toml.write c.sections))
    (henvironment : ∀ e ∈ environment, variableKey? e.1 = none) :
    load sources environment = .ok (c.reread (.ofList (putAll c.outline.wrappers.entries []))) := by
  have hkey : ∀ e ∈ (wrapperEntries c.outline.wrappers).head?, e.1 ≠ Value.momentKey := by
    intro e he hmoment
    rw [wrapperEntries, List.head?_map] at he
    obtain ⟨given, hgiven, rfl⟩ := Option.map_eq_some_iff.mp he
    exact hwrappers (by rw [ReadAsMoment, NameMap.names, List.head?_map, hgiven, Option.map_some, hmoment])
  have hlayer : layerOf? (Toml.write c.sections) =
      some (c.savedLayer (.table (textEntries c.outline.wrappers.entries))) := by
    rw [layerOf?_write h, ofToml?_table hkey, ofEntries?_flat (isFlat_wrapperEntries _), plainEntries, wrapperEntries,
      List.map_map]
    rfl
  rw [load, merged_copies hlayer (settles_texts _).table hne hsources, environmentLayer_eq_nil henvironment]
  show (ofEntries (c.savedLayer _)).mapError LoadError.misfit = _
  rw [ofEntries_savedLayer, mapOf_textEntries]
  rfl

/-- **Settings are not loaded again if the first name of their wrappers is that of a date or a time.** -/
theorem load_saved_moment (h : ∀ n ∈ c.numbers, n ≤ integerMax) (hwrappers : c.ReadAsMoment) (hne : sources ≠ [])
    (hsources : ∀ s ∈ sources, ∃ name, s = .text name (Toml.write c.sections))
    (henvironment : ∀ e ∈ environment, variableKey? e.1 = none) : ∃ e, load sources environment = .error e := by
  obtain ⟨⟨key, text⟩, hhead, rfl : key = Value.momentKey⟩ : ∃ given ∈ c.outline.wrappers.entries.head?,
      given.1 = Value.momentKey := by
    rw [ReadAsMoment, NameMap.names, List.head?_map] at hwrappers
    exact Option.map_eq_some_iff.mp hwrappers
  obtain ⟨rest, hentries⟩ := List.head?_eq_some_iff.mp hhead
  have hlayer : layerOf? (Toml.write c.sections) =
      (Toml.Moment.ofText? text.toList).map fun moment => c.savedLayer (.text moment) := by
    rw [layerOf?_write h, wrapperEntries, hentries, List.map_cons, Value.ofToml?, if_pos rfl, Value.momentOf?,
      Option.map_map]
    rfl
  cases hmoment : Toml.Moment.ofText? text.toList with
  | some moment =>
    rw [hmoment] at hlayer
    refine ⟨.misfit (.form (.text moment) "a map"), ?_⟩
    rw [load, merged_copies hlayer (Value.IsLeaf.settles trivial) hne hsources, environmentLayer_eq_nil henvironment]
    show (ofEntries (c.savedLayer _)).mapError LoadError.misfit = _
    rw [ofEntries_savedLayer]
    rfl
  | none =>
    rw [hmoment] at hlayer
    obtain ⟨s, sources, rfl⟩ := List.exists_cons_of_ne_nil hne
    obtain ⟨name, rfl⟩ := hsources s List.mem_cons_self
    refine ⟨.malformed name, ?_⟩
    rw [load, merged, List.foldlM_cons, Source.layer, hlayer]
    rfl

end ApiOutline.Settings
