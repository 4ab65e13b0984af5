import ApiOutline.Settings.Layer
import Mathlib.Data.List.Forall2

/-!
# Laying the same values over again

A layer gives a table when it is laid over nothing, and it changes nothing more when it is laid over that table.  So it
does not matter how often the same document is read.  For keys that differ in lower case this holds entry by entry.  Of
several texts whose keys are the same in lower case the last one is kept, and there the entries settle together only.

* `Value.Settles`, `Settles`: what values and entries come to.
* `SettlesEach.settles`: entries with different keys settle one by one.
* `putAll`, `settles_texts`: texts settle under any keys.
-/

namespace ApiOutline.Settings

variable {v w : Value} {es entries settled before : List (String × Value)} {key : String}

/-! ## Single entries -/

/-- The value `v` becomes the value `w` where there is nothing, and changes nothing where `w` is. -/
structure Value.Settles (v w : Value) : Prop where
  absent : ∀ {key : String} {entries : List (String × Value)}, foldKey key ∉ keysOf entries →
    overlay key v entries = entries ++ [(foldKey key, w)]
  present : ∀ {key : String} {entries : List (String × Value)}, entries.lookup (foldKey key) = some w →
    overlay key v entries = entries

/-- The values that are no tables. -/
def Value.IsLeaf : Value → Prop
  | .table _ => False
  | _ => True

theorem overlay_leaf (h : v.IsLeaf) (key : String) (entries : List (String × Value)) :
    overlay key v entries = upsert (foldKey key) v entries := by
  cases v with
  | table => exact h.elim
  | gap | text | integer | floating | bool | list => rfl

theorem Value.IsLeaf.settles (h : v.IsLeaf) : v.Settles v where
  absent hkey := by rw [overlay_leaf h, upsert_of_notMem hkey]
  present hkey := by rw [overlay_leaf h, upsert_of_lookup hkey]

/-- The entries `es` become the entries `settled` where there is nothing, and change nothing where these are. -/
structure Settles (es settled : List (String × Value)) : Prop where
  absent : overlayEntries es [] = settled
  present : overlayEntries es settled = settled

theorem Settles.table (h : Settles es settled) : (Value.table es).Settles (.table settled) := by
  cases es with
  | nil =>
    obtain rfl : [] = settled := h.absent
    refine ⟨fun {key entries} hkey => ?_, fun {key entries} hkey => ?_⟩
    · have hlookup := lookup_of_notMem hkey
      rw [overlay, hlookup, upsert_of_notMem hkey]
      rfl
    · rw [overlay, hkey]
      rfl
  | cons e es =>
    refine ⟨fun {key entries} hkey => ?_, fun {key entries} hkey => ?_⟩
    · rw [overlay, entriesAt, lookup_of_notMem hkey]
      exact (congrArg (fun t => upsert (foldKey key) (.table t) entries) h.absent).trans (upsert_of_notMem hkey)
    · rw [overlay, entriesAt, hkey]
      exact (congrArg (fun t => upsert (foldKey key) (.table t) entries) h.present).trans (upsert_of_lookup hkey)

/-! ## Entries with different keys -/

/-- Every entry settles by itself, under its key in lower case. -/
def SettlesEach (es settled : List (String × Value)) : Prop :=
  List.Forall₂ (fun e e' => foldKey e.1 = e'.1 ∧ e.2.Settles e'.2) es settled

theorem overlayEntries_absent (h : SettlesEach es settled)
    (hkeys : (keysOf before ++ keysOf settled).Nodup) : overlayEntries es before = before ++ settled := by
  induction h generalizing before with
  | nil => exact (List.append_nil before).symm
  | @cons e e' es settled he hes ih =>
    obtain ⟨hkey, hvalue⟩ := he
    have hnew : foldKey e.1 ∉ keysOf before := fun hmem =>
      (List.nodup_append.mp hkeys).2.2 _ hmem _ (hkey ▸ List.mem_cons_self) rfl
    have hrest : (keysOf (before ++ [(foldKey e.1, e'.2)]) ++ keysOf settled).Nodup := by
      simpa [keysOf, hkey] using hkeys
    rw [overlayEntries, hvalue.absent hnew, ih hrest, hkey, List.append_assoc]
    rfl

theorem overlayEntries_present (h : SettlesEach es settled)
    (hentries : ∀ e ∈ settled, entries.lookup e.1 = some e.2) : overlayEntries es entries = entries := by
  induction h with
  | nil => rfl
  | cons he _ ih =>
    obtain ⟨hhere, hrest⟩ := List.forall_mem_cons.mp hentries
    rw [overlayEntries, he.2.present (he.1 ▸ hhere), ih hrest]

/-- **Entries settle one by one if their keys differ in lower case.** -/
theorem SettlesEach.settles (h : SettlesEach es settled) (hkeys : (keysOf settled).Nodup) : Settles es settled where
  absent := overlayEntries_absent h hkeys
  present := overlayEntries_present h fun _ he => lookup_of_mem hkeys he

/-! ## Texts under any keys -/

/-- Texts as entries of settings. -/
def textEntries (texts : List (String × String)) : List (String × Value) :=
  texts.map fun e => (e.1, .text e.2)

/-- Pairs of keys and texts with further texts put in one after the other, under their keys in lower case. -/
def putAll (texts settled : List (String × String)) : List (String × String) :=
  texts.foldl (fun settled e => upsert (foldKey e.1) e.2 settled) settled

variable {texts base : List (String × String)} {t : String × String}

theorem upsert_textEntries (key s : String) (base : List (String × String)) :
    upsert key (.text s) (textEntries base) = textEntries (upsert key s base) := by
  induction base with
  | nil => rfl
  | cons e base ih =>
    rw [textEntries, List.map_cons, upsert, upsert]
    split
    · rfl
    · exact congrArg _ ih

theorem overlayEntries_textEntries (texts base : List (String × String)) :
    overlayEntries (textEntries texts) (textEntries base) = textEntries (putAll texts base) := by
  induction texts generalizing base with
  | nil => rfl
  | cons e texts ih =>
    rw [textEntries, List.map_cons, overlayEntries, overlay_leaf (v := .text e.2) trivial, upsert_textEntries]
    exact ih _

theorem mem_keysOf_putAll : key ∈ keysOf (putAll texts base) ↔ key ∈ keysOf base ∨ ∃ t ∈ texts, foldKey t.1 = key := by
  induction texts generalizing base with
  | nil => simp [putAll]
  | cons t texts ih =>
    have hkeys : key ∈ keysOf (upsert (foldKey t.1) t.2 base) ↔ key ∈ keysOf base ∨ foldKey t.1 = key := by
      rw [keys_upsert]
      split
      · next hmem => exact ⟨.inl, fun h => h.elim id fun heq => heq ▸ hmem⟩
      · rw [List.mem_append, List.mem_singleton, eq_comm (a := key)]
    rw [putAll, List.foldl_cons]
    refine ih.trans ?_
    rw [hkeys, or_assoc, List.exists_mem_cons_iff]

theorem nodup_putAll (h : (keysOf base).Nodup) : (keysOf (putAll texts base)).Nodup := by
  induction texts generalizing base with
  | nil => exact h
  | cons t texts ih => exact ih (nodup_upsert _ _ h)

/-- Keys that are there already keep their places. -/
theorem keysOf_putAll (h : ∀ t ∈ texts, foldKey t.1 ∈ keysOf base) : keysOf (putAll texts base) = keysOf base := by
  induction texts generalizing base with
  | nil => rfl
  | cons t texts ih =>
    obtain ⟨ht, htexts⟩ := List.forall_mem_cons.mp h
    have hkeys : keysOf (upsert (foldKey t.1) t.2 base) = keysOf base := by rw [keys_upsert, if_pos ht]
    exact (ih fun t ht => hkeys ▸ htexts t ht).trans hkeys

/-- A text that is put in is kept, whatever was there before. -/
theorem lookup_putAll (texts base : List (String × String)) (key : String) :
    (putAll texts base).lookup key = ((putAll texts []).lookup key).or (base.lookup key) := by
  induction texts generalizing base with
  | nil => rfl
  | cons t texts ih =>
    rw [putAll, putAll, List.foldl_cons, List.foldl_cons]
    refine (ih _).trans ?_
    rw [← putAll, ih (upsert _ _ []), Option.or_assoc, lookup_upsert, lookup_upsert]
    split <;> simp

/-- Of several texts whose keys are the same in lower case, the last one is kept. -/
theorem lookup_putAll_append_cons {before after : List (String × String)}
    (h : ∀ later ∈ after, foldKey later.1 ≠ foldKey t.1) :
    (putAll (before ++ t :: after) base).lookup (foldKey t.1) = some t.2 := by
  have hnone : (putAll after []).lookup (foldKey t.1) = none := by
    refine lookup_of_notMem fun hmem => ?_
    obtain ⟨later, hlater, hkey⟩ := (mem_keysOf_putAll.mp hmem).resolve_left List.not_mem_nil
    exact h later hlater hkey
  rw [putAll, List.foldl_append, List.foldl_cons, ← putAll, ← putAll, lookup_putAll, hnone, Option.none_or,
    lookup_upsert, if_pos rfl]

/-- **Texts settle under any keys.** -/
theorem settles_texts (texts : List (String × String)) :
    Settles (textEntries texts) (textEntries (putAll texts [])) := by
  have hmem : ∀ t ∈ texts, foldKey t.1 ∈ keysOf (putAll texts []) := fun t ht =>
    mem_keysOf_putAll.mpr (.inr ⟨t, ht, rfl⟩)
  have hagain : putAll texts (putAll texts []) = putAll texts [] := by
    refine eq_of_lookup (keysOf_putAll hmem) (nodup_putAll (nodup_putAll List.nodup_nil)) fun key => ?_
    rw [lookup_putAll, Option.or_self]
  exact ⟨overlayEntries_textEntries texts [], by rw [overlayEntries_textEntries, hagain]⟩

/-! ## Layers -/

/-- A layer whose keys are plain names is laid over entry by entry. -/
theorem overlayAll_eq (h : ∀ e ∈ es, pathOf e.1 = [.key e.1]) (entries : List (String × Value)) :
    overlayAll es entries = overlayEntries es entries := by
  induction es generalizing entries with
  | nil => rfl
  | cons e es ih =>
    obtain ⟨he, hes⟩ := List.forall_mem_cons.mp h
    rw [overlayAll, List.foldl_cons, he]
    exact ih hes _

end ApiOutline.Settings
