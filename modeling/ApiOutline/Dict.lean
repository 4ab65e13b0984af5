/-!
# Dictionaries

A dictionary keeps its keys in the order in which they were first put in, and each key has one
value.

* `upsert`: a list of pairs with the value of one key set.
* `Dict`: the lists in which no key occurs twice.
* `Dict.insert`, `Dict.get?`: writing and reading a key.
* `keys_upsert`, `lookup_upsert`: what writing does to the keys and to later reading.
* `upsert_of_notMem`, `upsert_append_cons`, `upsert_of_lookup`: where the value is put.
-/

namespace ApiOutline

variable {α : Type}

/-! ## Lists of pairs -/

/-- The pairs with the value of `key` set to `value`: in its place if the key is there, at the end
if not. -/
def upsert (key : String) (value : α) : List (String × α) → List (String × α)
  | [] => [(key, value)]
  | (k, v) :: rest => if k = key then (key, value) :: rest else (k, v) :: upsert key value rest

/-- The keys of a list of pairs. -/
def keysOf (pairs : List (String × α)) : List String :=
  pairs.map Prod.fst

theorem keysOf_append (pairs pairs' : List (String × α)) : keysOf (pairs ++ pairs') = keysOf pairs ++ keysOf pairs' :=
  List.map_append

theorem lookup_pair (key key' : String) (value : α) (rest : List (String × α)) :
    ((key, value) :: rest).lookup key' = if key' = key then some value else rest.lookup key' := by
  rw [List.lookup_cons]
  by_cases h : key' = key
  · simp [h]
  · rw [if_neg h, beq_false_of_ne h]

theorem mem_of_lookup {key : String} {value : α} {pairs : List (String × α)}
    (h : pairs.lookup key = some value) : (key, value) ∈ pairs := by
  obtain ⟨before, after, rfl, -⟩ := List.lookup_eq_some_iff.mp h
  exact List.mem_append_right _ List.mem_cons_self

/-- A pair is found under its key, if no key occurs twice. -/
theorem lookup_of_mem {pairs : List (String × α)} (hkeys : (keysOf pairs).Nodup) {p : String × α} (h : p ∈ pairs) :
    pairs.lookup p.1 = some p.2 := by
  obtain ⟨before, after, rfl⟩ := List.append_of_mem h
  refine List.lookup_eq_some_iff.mpr ⟨before, after, rfl, fun q hq => ?_⟩
  rw [keysOf, List.map_append, List.nodup_append] at hkeys
  simpa using (hkeys.2.2 q.1 (List.mem_map_of_mem hq) p.1 (by simp)).symm

theorem lookup_of_notMem {key : String} {pairs : List (String × α)} (h : key ∉ keysOf pairs) :
    pairs.lookup key = none :=
  List.lookup_eq_none_iff.mpr fun p hp => by
    simpa using fun hkey : key = p.1 => h (hkey ▸ List.mem_map_of_mem hp)

theorem keys_upsert (key : String) (value : α) (pairs : List (String × α)) :
    keysOf (upsert key value pairs) =
      if key ∈ keysOf pairs then keysOf pairs else keysOf pairs ++ [key] := by
  induction pairs with
  | nil => simp [upsert, keysOf]
  | cons p rest ih =>
    obtain ⟨k, v⟩ := p
    by_cases h : k = key
    · subst h
      simp [upsert, keysOf]
    · have h' : ¬ key = k := fun e => h e.symm
      by_cases hm : key ∈ keysOf rest
      · rw [if_pos hm] at ih
        rw [if_pos (show key ∈ keysOf ((k, v) :: rest) from List.mem_cons_of_mem _ hm)]
        simpa [upsert, h, keysOf] using ih
      · rw [if_neg hm] at ih
        rw [if_neg (by simpa [keysOf, h'] using hm)]
        simpa [upsert, h, keysOf] using ih

theorem mem_upsert {key : String} {value : α} {pairs : List (String × α)} {p : String × α}
    (h : p ∈ upsert key value pairs) : p = (key, value) ∨ p ∈ pairs := by
  induction pairs with
  | nil => exact Or.inl (List.mem_singleton.mp h)
  | cons q pairs ih =>
    obtain ⟨k, w⟩ := q
    rw [upsert] at h
    split at h
    · exact (List.mem_cons.mp h).imp_right (List.mem_cons_of_mem _)
    · rcases List.mem_cons.mp h with rfl | h
      · exact Or.inr List.mem_cons_self
      · exact (ih h).imp_right (List.mem_cons_of_mem _)

theorem nodup_upsert (key : String) (value : α) {pairs : List (String × α)}
    (h : (keysOf pairs).Nodup) : (keysOf (upsert key value pairs)).Nodup := by
  rw [keys_upsert]
  split
  · exact h
  · next hk =>
    rw [List.nodup_append]
    refine ⟨h, by simp, fun a ha b hb e => ?_⟩
    rw [List.mem_singleton] at hb
    exact hk (hb ▸ e ▸ ha)

theorem lookup_upsert (key key' : String) (value : α) (pairs : List (String × α)) :
    (upsert key value pairs).lookup key' =
      if key' = key then some value else pairs.lookup key' := by
  induction pairs with
  | nil => rw [upsert, lookup_pair]
  | cons p rest ih =>
    obtain ⟨k, v⟩ := p
    by_cases h : k = key
    · subst h
      rw [upsert, if_pos rfl, lookup_pair, lookup_pair]
      split <;> rfl
    · rw [upsert, if_neg h, lookup_pair, lookup_pair, ih]
      by_cases hk : key' = k
      · have : ¬ key' = key := fun e => h (hk ▸ e)
        simp [hk, h]
      · simp [hk]

/-- A key that is not there is put in at the end. -/
theorem upsert_of_notMem {key : String} {value : α} {pairs : List (String × α)}
    (h : key ∉ keysOf pairs) : upsert key value pairs = pairs ++ [(key, value)] := by
  induction pairs with
  | nil => rfl
  | cons p pairs ih =>
    obtain ⟨k, w⟩ := p
    rw [keysOf, List.map_cons, List.mem_cons, not_or] at h
    rw [upsert, if_neg fun e => h.1 e.symm, ih h.2, List.cons_append]

/-- A key that is there keeps its place. -/
theorem upsert_append_cons {key : String} {before : List (String × α)} (h : key ∉ keysOf before)
    (value old : α) (after : List (String × α)) :
    upsert key value (before ++ (key, old) :: after) = before ++ (key, value) :: after := by
  induction before with
  | nil => exact if_pos rfl
  | cons p before ih =>
    obtain ⟨k, w⟩ := p
    rw [keysOf, List.map_cons, List.mem_cons, not_or] at h
    rw [List.cons_append, upsert, if_neg fun e => h.1 e.symm, ih h.2, List.cons_append]

/-- Setting a key to the value that it has changes nothing. -/
theorem upsert_of_lookup {key : String} {value : α} {pairs : List (String × α)}
    (h : pairs.lookup key = some value) : upsert key value pairs = pairs := by
  obtain ⟨before, after, rfl, hbefore⟩ := List.lookup_eq_some_iff.mp h
  refine upsert_append_cons (fun hmem => ?_) value value after
  obtain ⟨p, hp, hkey⟩ := List.mem_map.mp hmem
  exact absurd (hbefore p hp) (by simp [hkey])

/-- Lists of pairs are the same if they have the same keys, none of them twice, with the same values. -/
theorem eq_of_lookup {pairs pairs' : List (String × α)} (hkeys : keysOf pairs = keysOf pairs')
    (hnodup : (keysOf pairs).Nodup) (h : ∀ key, pairs.lookup key = pairs'.lookup key) : pairs = pairs' := by
  induction pairs generalizing pairs' with
  | nil => exact (List.map_eq_nil_iff.mp hkeys.symm).symm
  | cons p rest ih =>
    obtain ⟨key, value⟩ := p
    obtain ⟨⟨key', value'⟩, rest', rfl, rfl, hrest⟩ := List.map_eq_cons_iff.mp hkeys.symm
    obtain ⟨hnew, hnodupRest⟩ := List.nodup_cons.mp hnodup
    have hvalue := h key'
    rw [lookup_pair, lookup_pair, if_pos rfl, if_pos rfl] at hvalue
    obtain rfl := Option.some.inj hvalue
    refine congrArg _ (ih hrest.symm hnodupRest fun k => ?_)
    by_cases hk : k = key'
    · have hnew' : key' ∉ keysOf rest' := fun hmem => hnew (hrest ▸ hmem)
      rw [hk, lookup_of_notMem hnew, lookup_of_notMem hnew']
    · have hlookup := h k
      rwa [lookup_pair, lookup_pair, if_neg hk, if_neg hk] at hlookup

/-! ## Dictionaries -/

/-- Pairs of keys and values, no key twice. -/
structure Dict (α : Type) where
  entries : List (String × α)
  nodup : (keysOf entries).Nodup

namespace Dict

instance [DecidableEq α] : DecidableEq (Dict α) := fun a b =>
  if h : a.entries = b.entries then
    isTrue (by cases a; cases b; simp_all)
  else
    isFalse fun e => h (e ▸ rfl)

instance [Repr α] : Repr (Dict α) := ⟨fun d n => reprPrec d.entries n⟩

/-- The dictionary without entries. -/
def empty : Dict α := ⟨[], by simp [keysOf]⟩

instance : Inhabited (Dict α) := ⟨empty⟩

/-- The dictionary with the value of `key` set. -/
def insert (d : Dict α) (key : String) (value : α) : Dict α :=
  ⟨upsert key value d.entries, nodup_upsert key value d.nodup⟩

/-- The dictionary of a list of pairs: of two values for one key the later one holds. -/
def ofList (pairs : List (String × α)) : Dict α :=
  pairs.foldl (fun d p => d.insert p.1 p.2) empty

/-- The value of `key`. -/
def get? (d : Dict α) (key : String) : Option α :=
  d.entries.lookup key

/-- The keys, in the order in which they were put in. -/
def keys (d : Dict α) : List String :=
  keysOf d.entries

/-- The values, in the order of their keys. -/
def values (d : Dict α) : List α :=
  d.entries.map Prod.snd

/-- Whether there is no entry. -/
def isEmpty (d : Dict α) : Bool :=
  d.entries.isEmpty

theorem eq_of_entries {d d' : Dict α} (h : d.entries = d'.entries) : d = d' := by
  cases d
  cases d'
  simp_all

/-- What has a value is a key. -/
theorem mem_keys_of_isSome {d : Dict α} {key : String} (h : (d.get? key).isSome = true) : key ∈ d.keys := by
  obtain ⟨value, hvalue⟩ := Option.isSome_iff_exists.mp h
  exact List.mem_map.mpr ⟨(key, value), mem_of_lookup hvalue, rfl⟩

@[simp] theorem get?_insert (d : Dict α) (key key' : String) (value : α) :
    (d.insert key value).get? key' = if key' = key then some value else d.get? key' :=
  lookup_upsert key key' value d.entries

theorem keys_insert (d : Dict α) (key : String) (value : α) :
    (d.insert key value).keys = if key ∈ d.keys then d.keys else d.keys ++ [key] :=
  keys_upsert key value d.entries

end Dict

end ApiOutline
