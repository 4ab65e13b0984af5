import ApiOutline.Proofs.Settings.Overlay
import ApiOutline.Proofs.Settings.Saved
import ApiOutline.Proofs.Text.Case

/-!
# The layer of saved settings

The table of a saved document becomes a layer value by value.  Its keys are names of settings, which are in lower case
and are no paths, so the layer gives the same table however often it is laid over.  Only the names of wrappers are what
a user wrote: what stands under them is left open here, together with what it settles to.

* `Value.ofFlat`, `plainEntries`: the values and the entries of a section.
* `savedLayer`, `layerOf?_write`: the layer of a saved document.
* `overlayAll_savedLayer`: what the layer gives, over nothing and over what it gave before.
-/

namespace ApiOutline.Settings

open Toml (Value.IsAtom Value.IsFlat integerMax)

/-! ## Values -/

/-- A single value of a document as a value of a setting. -/
def Value.ofAtom : Toml.Value → Value
  | .text s => .text s
  | .integer i => .integer i
  | .bool b => .bool b
  | _ => .gap

/-- A flat value of a document as a value of a setting. -/
def Value.ofFlat : Toml.Value → Value
  | .array items => .list (items.map ofAtom)
  | v => ofAtom v

/-- Entries with flat values as entries of settings. -/
def plainEntries (es : List (String × Toml.Value)) : List (String × Value) :=
  es.map fun e => (e.1, .ofFlat e.2)

theorem ofToml?_atom {v : Toml.Value} (h : v.IsAtom) : Value.ofToml? v = some (.ofAtom v) := by
  cases v with
  | text | integer | bool => rfl
  | moment | floating | array | table => exact h.elim

theorem ofItems?_atoms {items : List Toml.Value} (h : ∀ v ∈ items, v.IsAtom) :
    Value.ofItems? items = some (items.map .ofAtom) := by
  induction items with
  | nil => rfl
  | cons v items ih =>
    obtain ⟨hv, hitems⟩ := List.forall_mem_cons.mp h
    rw [Value.ofItems?, ofToml?_atom hv, ih hitems]
    rfl

theorem ofToml?_flat {v : Toml.Value} (h : v.IsFlat) : Value.ofToml? v = some (.ofFlat v) := by
  cases v with
  | array items => rw [Value.ofToml?, ofItems?_atoms h]; rfl
  | text | integer | bool | moment | floating | table => exact ofToml?_atom h

theorem ofEntries?_flat {es : List (String × Toml.Value)} (h : ∀ e ∈ es, e.2.IsFlat) :
    Value.ofEntries? es = some (plainEntries es) := by
  induction es with
  | nil => rfl
  | cons e es ih =>
    obtain ⟨he, hes⟩ := List.forall_mem_cons.mp h
    rw [Value.ofEntries?, ofToml?_flat he, ih hes]
    rfl

theorem ofToml?_table {es : List (String × Toml.Value)} (hkey : ∀ e ∈ es.head?, e.1 ≠ Value.momentKey) :
    Value.ofToml? (.table es) = (Value.ofEntries? es).map .table := by
  cases es with
  | nil => rfl
  | cons e es =>
    rw [Value.ofToml?, if_neg (hkey e rfl), Value.ofEntries?]
    cases Value.ofToml? e.2 <;> cases Value.ofEntries? es <;> rfl

theorem momentKey_notMem_settingNames : Value.momentKey ∉ settingNames := by decide

theorem ofToml?_table_flat {es : List (String × Toml.Value)} (hkeys : ∀ k ∈ keysOf es, k ∈ settingNames)
    (h : ∀ e ∈ es, e.2.IsFlat) : Value.ofToml? (.table es) = some (.table (plainEntries es)) := by
  have hhead : ∀ e ∈ es.head?, e.1 ≠ Value.momentKey := fun e he heq =>
    momentKey_notMem_settingNames (heq ▸ hkeys e.1 (List.mem_map_of_mem (List.mem_of_mem_head? he)))
  rw [ofToml?_table hhead, ofEntries?_flat h, Option.map_some]

theorem ofEntries?_append {es : List (String × Toml.Value)} (h : ∀ e ∈ es, e.2.IsFlat) (es' : List (String × Toml.Value)) :
    Value.ofEntries? (es ++ es') = (Value.ofEntries? es').map (plainEntries es ++ ·) := by
  induction es with
  | nil => cases hes : Value.ofEntries? es' <;> simp [hes, plainEntries]
  | cons e es ih =>
    obtain ⟨he, hes⟩ := List.forall_mem_cons.mp h
    rw [List.cons_append, Value.ofEntries?, ofToml?_flat he, ih hes]
    cases Value.ofEntries? es' <;> rfl

/-! ## The layer -/

/-- The layer of saved settings, with a value in the place of their wrappers. -/
def savedLayer (c : Settings) (wrappers : Value) : List (String × Value) :=
  [("source", .table (plainEntries (documentEntries c.document))),
   ("output", .table (plainEntries (outputEntries c.output))),
   ("codegen", .table (plainEntries (outlineEntries c.outline) ++
    [("naming", .table (plainEntries (namingEntries c.outline.naming))),
     ("filter", .table (plainEntries (filterEntries c.outline.filter))),
     ("generic_wrappers", wrappers)]))]

variable {c : Settings}

/-- **The layer of a saved document.**  There is none if the wrappers stand for a date or a time and are none. -/
theorem layerOf?_write (h : ∀ n ∈ c.numbers, n ≤ integerMax) :
    layerOf? (Toml.write c.sections) =
      (Value.ofToml? (.table (wrapperEntries c.outline.wrappers))).map c.savedLayer := by
  have hdocument : Value.ofToml? (.table (documentEntries c.document)) = some (.table (plainEntries _)) :=
    ofToml?_table_flat (mem_settingNames_of_entryIfSome (by decide)) (isFlat_documentEntries c.document)
  have houtput := ofToml?_table_flat (by rw [keysOf_outputEntries]; decide) (isFlat_outputEntries c.output)
  have hnaming := ofToml?_table_flat (mem_settingNames_of_namingEntries c.outline.naming) (isFlat_naming h)
  have hfilter := ofToml?_table_flat (by rw [keysOf_filterEntries]; decide) (isFlat_filterEntries c.outline.filter)
  have houtline : Value.ofToml? (.table (outlineEntries c.outline ++
      [("naming", .table (namingEntries c.outline.naming)), ("filter", .table (filterEntries c.outline.filter)),
       ("generic_wrappers", .table (wrapperEntries c.outline.wrappers))])) =
      (Value.ofToml? (.table (wrapperEntries c.outline.wrappers))).map fun w =>
        .table (plainEntries (outlineEntries c.outline) ++
          [("naming", .table (plainEntries (namingEntries c.outline.naming))),
           ("filter", .table (plainEntries (filterEntries c.outline.filter))), ("generic_wrappers", w)]) := by
    rw [ofToml?_table (by simp [outlineEntries, Value.momentKey]), ofEntries?_append (isFlat_outlineEntries c.outline)]
    simp only [Value.ofEntries?, hnaming, hfilter]
    cases Value.ofToml? (.table (wrapperEntries c.outline.wrappers)) <;> rfl
  rw [layerOf?, table?_write h, Option.bind_some, ofDocument?, savedTable, ofToml?_table (by simp [Value.momentKey])]
  simp only [Value.ofEntries?, hdocument, houtput, houtline]
  cases Value.ofToml? (.table (wrapperEntries c.outline.wrappers)) <;> rfl

/-! ## Laying the layer over -/

/-- Whether a character may stand in the name of a setting: a small letter or an underscore, or one of few others that
lower case leaves alone as well. -/
def isNameChar (c : Char) : Bool :=
  decide (90 < c.toNat) && decide (c.toNat < 123)

theorem foldKey_eq_self {key : String} (h : key.toList.all isNameChar = true) : foldKey key = key := by
  have hchars : ∀ c ∈ key.toList, c ≠ 'Σ' ∧ Text.lower c = [c] := fun c hc => by
    obtain ⟨hfirst, hlast⟩ : 90 < c.toNat ∧ c.toNat < 123 := by simpa [isNameChar] using List.all_eq_true.mp h c hc
    refine ⟨?_, Text.lower_eq_self hfirst hlast⟩
    rintro rfl
    exact absurd hlast (by decide)
  rw [foldKey, Text.lowercase_eq_self hchars, String.ofList_toList]

theorem foldKey_of_mem_settingNames (key : String) (hkey : key ∈ settingNames) : foldKey key = key := by
  have hchars : ∀ key ∈ settingNames, key.toList.all isNameChar = true := by decide
  exact foldKey_eq_self (hchars key hkey)

theorem pathOf_of_mem_settingNames (key : String) (hkey : key ∈ settingNames) : pathOf key = [.key key] := by
  have hsteps : ∀ key ∈ settingNames, stepsOf? key = some [.key key] := by decide
  rw [pathOf, foldKey_of_mem_settingNames key hkey, hsteps key hkey, Option.getD_some]

theorem isLeaf_ofFlat (v : Toml.Value) : (Value.ofFlat v).IsLeaf := by
  cases v <;> trivial

theorem keysOf_plainEntries (es : List (String × Toml.Value)) : keysOf (plainEntries es) = keysOf es := by
  rw [keysOf, plainEntries, List.map_map]
  rfl

theorem settlesEach_plainEntries {es : List (String × Toml.Value)} (hkeys : ∀ k ∈ keysOf es, k ∈ settingNames) :
    SettlesEach (plainEntries es) (plainEntries es) :=
  List.forall₂_same.mpr <| List.forall_mem_map.mpr fun e he =>
    ⟨foldKey_of_mem_settingNames e.1 (hkeys e.1 (List.mem_map_of_mem he)), (isLeaf_ofFlat e.2).settles⟩

theorem settles_plainEntries {es : List (String × Toml.Value)} (hkeys : ∀ k ∈ keysOf es, k ∈ settingNames)
    (hnodup : (keysOf es).Nodup) : (Value.table (plainEntries es)).Settles (.table (plainEntries es)) :=
  ((settlesEach_plainEntries hkeys).settles (by rwa [keysOf_plainEntries])).table

theorem settlesEach_cons (key : String) (hkey : key ∈ settingNames) {v v' : Value} (h : v.Settles v')
    {es es' : List (String × Value)} (hes : SettlesEach es es') : SettlesEach ((key, v) :: es) ((key, v') :: es') :=
  .cons ⟨foldKey_of_mem_settingNames key hkey, h⟩ hes

/-- **The layer of saved settings settles as its wrappers do.** -/
theorem settles_savedLayer {w w' : Value} (h : w.Settles w') : Settles (c.savedLayer w) (c.savedLayer w') := by
  have hdocument := settles_plainEntries (mem_settingNames_of_entryIfSome (by decide))
    (nodup_keysOf_entryIfSome "document" .text c.document)
  have houtput : (Value.table (plainEntries (outputEntries c.output))).Settles (.table (plainEntries _)) :=
    settles_plainEntries (by rw [keysOf_outputEntries]; decide) (by rw [keysOf_outputEntries]; decide)
  have hnaming := settles_plainEntries (mem_settingNames_of_namingEntries c.outline.naming) (nodup_namingEntries _)
  have hfilter : (Value.table (plainEntries (filterEntries c.outline.filter))).Settles (.table (plainEntries _)) :=
    settles_plainEntries (by rw [keysOf_filterEntries]; decide) (by rw [keysOf_filterEntries]; decide)
  have hinner := settlesEach_cons "naming" (by decide) hnaming <|
    settlesEach_cons "filter" (by decide) hfilter <| settlesEach_cons "generic_wrappers" (by decide) h .nil
  have houtline : Settles _ _ := SettlesEach.settles
    (List.rel_append (settlesEach_plainEntries (mem_settingNames_of_outlineEntries c.outline)) hinner) (by
      rw [keysOf_append, keysOf_plainEntries]
      exact nodup_innerKeys c.outline)
  have hlayer : SettlesEach (c.savedLayer w) (c.savedLayer w') :=
    settlesEach_cons "source" (by decide) hdocument <| settlesEach_cons "output" (by decide) houtput <|
    settlesEach_cons "codegen" (by decide) houtline.table .nil
  exact hlayer.settles (by show ["source", "output", "codegen"].Nodup; decide)

/-- Laid over nothing as often as one likes, the layer of saved settings gives one table. -/
theorem overlayAll_savedLayer {w w' : Value} (h : w.Settles w') {entries : List (String × Value)}
    (hentries : entries = [] ∨ entries = c.savedLayer w') : overlayAll (c.savedLayer w) entries = c.savedLayer w' := by
  have hpaths : ∀ e ∈ c.savedLayer w, pathOf e.1 = [.key e.1] := by
    have hkeys : ∀ key ∈ ["source", "output", "codegen"], pathOf key = [.key key] := fun key hkey =>
      pathOf_of_mem_settingNames key (by revert key; decide)
    exact fun e he => hkeys e.1 (List.mem_map_of_mem he)
  rw [overlayAll_eq hpaths]
  rcases hentries with rfl | rfl
  · exact (settles_savedLayer h).absent
  · exact (settles_savedLayer h).present

end ApiOutline.Settings
