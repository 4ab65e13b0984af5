import ApiOutline.Toml.Table

/-!
# The tables of flat sections

A section whose keys are single ones adds one table, and the pairs below its heading are the entries of that table, in
their order.  What is added stands at the end, whether the heading has one name or leads into a table that is there.

* `pairsOf`: entries as pairs with single keys.
* `insertPairs_pairsOf`: pairs with keys of their own are put at the end.
* `outerSections`, `innerSections`: the sections under headings of one name, and of two names with the first one given.
* `ofSections?_outer_inner`: the table that such sections describe.
-/

namespace ApiOutline.Toml

/-- Entries as pairs with single keys. -/
def pairsOf (entries : List (String × Value)) : List Pair :=
  entries.map fun e => ⟨[e.1], e.2⟩

/-- Entries as parts of a table that is being built. -/
def itemsOf (entries : List (String × Value)) : Items :=
  entries.map fun e => (e.1, .value e.2)

variable {entries : List (String × Value)} {items inner : Items} {key key' : String}

/-! ## Pairs -/

theorem insertPair_single (v : Value) (h : key ∉ keysOf items) :
    insertPair v [key] items = some (items ++ [(key, .value v)]) := by
  rw [insertPair, lookup_of_notMem h]
  rfl

/-- **Pairs whose keys differ from each other and from those that are there are put at the end.** -/
theorem insertPairs_pairsOf (h : (keysOf items ++ keysOf entries).Nodup) :
    insertPairs (pairsOf entries) items = some (items ++ itemsOf entries) := by
  induction entries generalizing items with
  | nil => rw [itemsOf, List.map_nil, List.append_nil]; rfl
  | cons e entries ih =>
    obtain ⟨key, v⟩ := e
    have hkey : key ∉ keysOf items := fun hmem =>
      (List.nodup_append.mp h).2.2 key hmem key List.mem_cons_self rfl
    have hrest : (keysOf (items ++ [(key, Item.value v)]) ++ keysOf entries).Nodup := by
      simpa [keysOf] using h
    rw [pairsOf, List.map_cons, insertPairs, List.foldlM_cons, insertPair_single v hkey]
    refine (ih hrest).trans ?_
    rw [List.append_assoc]
    rfl

/-! ## Sections -/

/-- The table of a section is put at the end, where its name is not taken. -/
theorem insertSection_outer (path : List String) (hentries : (keysOf entries).Nodup) (h : key ∉ keysOf items) :
    insertSection ⟨path, false, pairsOf entries⟩ [key] items =
      some (items ++ [(key, .table .declared (itemsOf entries))]) := by
  have hother : ∀ e ∈ items, (e.1 != key) = true := fun e he =>
    bne_iff_ne.mpr fun hkey => h (hkey ▸ List.mem_map_of_mem he)
  rw [insertSection, lookup_of_notMem h, declare, insertPairs_pairsOf (by simpa [keysOf] using hentries)]
  simp [putLast, List.filter_eq_self.mpr hother]

/-- The table of a section is put at the end of the last table, which its heading leads into. -/
theorem insertSection_inner (path : List String) (hentries : (keysOf entries).Nodup) (h : key ∉ keysOf items)
    (hinner : key' ∉ keysOf inner) :
    insertSection ⟨path, false, pairsOf entries⟩ [key, key'] (items ++ [(key, .table .declared inner)]) =
      some (items ++ [(key, .table .declared (inner ++ [(key', .table .declared (itemsOf entries))]))]) := by
  have hlookup : (items ++ [(key, Item.table .declared inner)]).lookup key = some (.table .declared inner) := by
    rw [List.lookup_append, lookup_of_notMem h, Option.none_or, lookup_pair, if_pos rfl]
  rw [insertSection.eq_3, hlookup]
  simp only [insertSection_outer path hentries hinner, Option.map_some, upsert_append_cons h]

/-- The sections of tables with names. -/
def outerSections (tables : List (String × List (String × Value))) : List Section :=
  tables.map fun t => ⟨[t.1], false, pairsOf t.2⟩

/-- The sections of tables with names inside a table. -/
def innerSections (key : String) (tables : List (String × List (String × Value))) : List Section :=
  tables.map fun t => ⟨[key, t.1], false, pairsOf t.2⟩

variable {tables : List (String × List (String × Value))}

theorem foldlM_outerSections (htables : ∀ t ∈ tables, (keysOf t.2).Nodup) (h : (keysOf items ++ keysOf tables).Nodup) :
    (outerSections tables).foldlM (fun items s => insertSection s s.path items) items =
      some (items ++ tables.map fun t => (t.1, .table .declared (itemsOf t.2))) := by
  induction tables generalizing items with
  | nil => rw [List.map_nil, List.append_nil]; rfl
  | cons t tables ih =>
    obtain ⟨ht, htables⟩ := List.forall_mem_cons.mp htables
    have hkey : t.1 ∉ keysOf items := fun hmem => (List.nodup_append.mp h).2.2 _ hmem _ List.mem_cons_self rfl
    have hrest : (keysOf (items ++ [(t.1, Item.table .declared (itemsOf t.2))]) ++ keysOf tables).Nodup := by
      simpa [keysOf] using h
    rw [outerSections, List.map_cons, List.foldlM_cons, insertSection_outer _ ht hkey]
    refine (ih htables hrest).trans ?_
    rw [List.append_assoc]
    rfl

theorem foldlM_innerSections (htables : ∀ t ∈ tables, (keysOf t.2).Nodup) (hkey : key ∉ keysOf items)
    (h : (keysOf inner ++ keysOf tables).Nodup) :
    (innerSections key tables).foldlM (fun items s => insertSection s s.path items)
        (items ++ [(key, .table .declared inner)]) =
      some (items ++ [(key, .table .declared (inner ++ tables.map fun t => (t.1, .table .declared (itemsOf t.2))))]) := by
  induction tables generalizing inner with
  | nil => rw [List.map_nil, List.append_nil]; rfl
  | cons t tables ih =>
    obtain ⟨ht, htables⟩ := List.forall_mem_cons.mp htables
    have hinner : t.1 ∉ keysOf inner := fun hmem => (List.nodup_append.mp h).2.2 _ hmem _ List.mem_cons_self rfl
    have hrest : (keysOf (inner ++ [(t.1, Item.table .declared (itemsOf t.2))]) ++ keysOf tables).Nodup := by
      simpa [keysOf] using h
    rw [innerSections, List.map_cons, List.foldlM_cons, insertSection_inner _ ht hkey hinner]
    refine (ih htables hrest).trans ?_
    rw [List.append_assoc]
    rfl

/-! ## Finished tables -/

theorem valuesOf_append (items items' : Items) : valuesOf (items ++ items') = valuesOf items ++ valuesOf items' := by
  induction items with
  | nil => rfl
  | cons e items ih => rw [List.cons_append, valuesOf, valuesOf, ih, List.cons_append]

theorem valuesOf_itemsOf (entries : List (String × Value)) : valuesOf (itemsOf entries) = entries := by
  induction entries with
  | nil => rfl
  | cons e entries ih =>
    rw [itemsOf, List.map_cons, valuesOf, Item.toValue]
    exact congrArg _ ih

theorem valuesOf_tables (tables : List (String × List (String × Value))) :
    valuesOf (tables.map fun t => (t.1, .table .declared (itemsOf t.2))) = tables.map fun t => (t.1, .table t.2) := by
  induction tables with
  | nil => rfl
  | cons t tables ih => rw [List.map_cons, valuesOf, Item.toValue, valuesOf_itemsOf, ih, List.map_cons]

/-- **The table of a document**: tables with names, and inside the last one entries and then tables with names. -/
theorem ofSections?_outer_inner {inside : List (String × List (String × Value))}
    (htables : ∀ t ∈ tables ++ [(key, entries)], (keysOf t.2).Nodup) (h : (keysOf (tables ++ [(key, entries)])).Nodup)
    (hinside : ∀ t ∈ inside, (keysOf t.2).Nodup) (hkeys : (keysOf entries ++ keysOf inside).Nodup) :
    ofSections? (⟨[], false, []⟩ :: (outerSections (tables ++ [(key, entries)]) ++ innerSections key inside)) =
      some (tables.map (fun t => (t.1, .table t.2)) ++
        [(key, .table (entries ++ inside.map fun t => (t.1, .table t.2)))]) := by
  have houter : (outerSections (tables ++ [(key, entries)])).foldlM (fun items s => insertSection s s.path items) [] =
      some (tables.map (fun t => (t.1, .table .declared (itemsOf t.2))) ++
        [(key, .table .declared (itemsOf entries))]) := by
    refine (foldlM_outerSections htables (by rwa [keysOf, List.map_nil, List.nil_append])).trans ?_
    rw [List.map_append]
    rfl
  have hkey : key ∉ keysOf (tables.map fun t => (t.1, Item.table .declared (itemsOf t.2))) := by
    rw [keysOf_append] at h
    intro hmem
    rw [keysOf, List.map_map] at hmem
    exact (List.nodup_append.mp h).2.2 key hmem key List.mem_cons_self rfl
  have hitems : (keysOf (itemsOf entries) ++ keysOf inside).Nodup := by
    rwa [keysOf, itemsOf, List.map_map]
  rw [ofSections?, List.foldlM_cons]
  show Option.map valuesOf ((outerSections _ ++ innerSections key inside).foldlM _ []) = _
  rw [List.foldlM_append, houter]
  refine (congrArg _ (foldlM_innerSections hinside hkey hitems)).trans ?_
  rw [Option.map_some, valuesOf_append, valuesOf_tables, valuesOf, Item.toValue, valuesOf_append, valuesOf_itemsOf,
    valuesOf_tables, valuesOf]

end ApiOutline.Toml
