/-!
# Name maps

A name map lists its entries in ascending order of their names.  Names are compared character by
character by their code points, which is also the order of their UTF-8 bytes.

* `insertSorted`: an ascending list of pairs with the value of one name set.
* `NameMap`: the lists whose names ascend.
* `NameMap.mem_names_ofList`, `NameMap.mem_of_mem_ofList`: what the map of a list of pairs holds.
* `NameSet`: name maps in which only the names count.
-/

namespace ApiOutline

variable {α : Type}

/-! ## Ascending lists of pairs -/

/-- Whether the names of a list of pairs ascend. -/
def Ascending (pairs : List (String × α)) : Prop :=
  pairs.Pairwise fun p q => p.1 < q.1

/-- The pairs with the value of `name` set, put in at its place if it is not there. -/
def insertSorted (name : String) (value : α) : List (String × α) → List (String × α)
  | [] => [(name, value)]
  | (n, v) :: rest =>
    if name < n then (name, value) :: (n, v) :: rest
    else if n < name then (n, v) :: insertSorted name value rest
    else (name, value) :: rest

theorem mem_insertSorted {name : String} {value : α} {pairs : List (String × α)}
    {p : String × α} (h : p ∈ insertSorted name value pairs) :
    p = (name, value) ∨ p ∈ pairs := by
  induction pairs with
  | nil => simpa [insertSorted] using h
  | cons q rest ih =>
    obtain ⟨n, v⟩ := q
    rw [insertSorted] at h
    split at h
    · simpa using h
    split at h
    · rcases List.mem_cons.mp h with h | h
      · exact Or.inr (h ▸ List.mem_cons_self)
      · exact (ih h).imp_right (List.mem_cons_of_mem _)
    · rcases List.mem_cons.mp h with h | h
      · exact Or.inl h
      · exact Or.inr (List.mem_cons_of_mem _ h)

theorem mem_insertSorted_names {name n : String} {value : α} {pairs : List (String × α)} :
    n ∈ (insertSorted name value pairs).map Prod.fst ↔ n = name ∨ n ∈ pairs.map Prod.fst := by
  induction pairs with
  | nil => simp [insertSorted]
  | cons p pairs ih =>
    obtain ⟨n', v⟩ := p
    rw [insertSorted]
    split
    · simp
    split
    · rw [List.map_cons, List.mem_cons, ih, List.map_cons, List.mem_cons, or_left_comm]
    · next h1 h2 =>
      obtain rfl : n' = name := String.le_antisymm (String.not_lt.mp h1) (String.not_lt.mp h2)
      simp

theorem ascending_insertSorted (name : String) (value : α) {pairs : List (String × α)}
    (h : Ascending pairs) : Ascending (insertSorted name value pairs) := by
  induction pairs with
  | nil => simp [insertSorted, Ascending]
  | cons q rest ih =>
    obtain ⟨n, v⟩ := q
    obtain ⟨hn, hrest⟩ := List.pairwise_cons.mp h
    rw [insertSorted]
    split
    · next hlt =>
      refine List.pairwise_cons.mpr ⟨fun p hp => ?_, h⟩
      rcases List.mem_cons.mp hp with rfl | hp
      · exact hlt
      · exact String.lt_trans hlt (hn p hp)
    split
    · next hlt =>
      refine List.pairwise_cons.mpr ⟨fun p hp => ?_, ih hrest⟩
      rcases mem_insertSorted hp with rfl | hp
      · exact hlt
      · exact hn p hp
    · next h1 h2 =>
      have e : n = name := String.le_antisymm (String.not_lt.mp h1) (String.not_lt.mp h2)
      subst e
      exact List.pairwise_cons.mpr ⟨hn, hrest⟩

/-! ## Maps and sets -/

/-- Pairs of names and values, the names ascending. -/
structure NameMap (α : Type) where
  entries : List (String × α)
  ascending : Ascending entries

namespace NameMap

instance [DecidableEq α] : DecidableEq (NameMap α) := fun a b =>
  if h : a.entries = b.entries then
    isTrue (by cases a; cases b; simp_all)
  else
    isFalse fun e => h (e ▸ rfl)

instance [Repr α] : Repr (NameMap α) := ⟨fun d n => reprPrec d.entries n⟩

/-- The map without entries. -/
def empty : NameMap α := ⟨[], List.Pairwise.nil⟩

instance : Inhabited (NameMap α) := ⟨empty⟩

/-- The map with the value of `name` set. -/
def insert (m : NameMap α) (name : String) (value : α) : NameMap α :=
  ⟨insertSorted name value m.entries, ascending_insertSorted name value m.ascending⟩

/-- The map of a list of pairs: of two values for one name the later one holds. -/
def ofList (pairs : List (String × α)) : NameMap α :=
  pairs.foldl (fun m p => m.insert p.1 p.2) empty

/-- The value of `name`. -/
def get? (m : NameMap α) (name : String) : Option α :=
  m.entries.lookup name

/-- The names, ascending. -/
def names (m : NameMap α) : List String :=
  m.entries.map Prod.fst

theorem pairwise_names (m : NameMap α) : m.names.Pairwise (· < ·) :=
  List.pairwise_map.mpr m.ascending

theorem nodup_names (m : NameMap α) : m.names.Nodup :=
  m.pairwise_names.imp String.ne_of_lt

/-- The names of the map of a list of pairs are the names in the list. -/
theorem mem_names_ofList {n : String} {pairs : List (String × α)} :
    n ∈ (ofList pairs).names ↔ n ∈ pairs.map Prod.fst := by
  have hfold : ∀ m : NameMap α,
      n ∈ (pairs.foldl (fun m p => m.insert p.1 p.2) m).names ↔ n ∈ m.names ∨ n ∈ pairs.map Prod.fst := by
    induction pairs with
    | nil => simp
    | cons p pairs ih =>
      intro m
      have hinsert : n ∈ (m.insert p.1 p.2).names ↔ n = p.1 ∨ n ∈ m.names := mem_insertSorted_names
      rw [List.foldl_cons, ih, hinsert, List.map_cons, List.mem_cons, or_assoc, or_left_comm]
  have hempty : n ∉ (empty : NameMap α).names := List.not_mem_nil
  rw [ofList, hfold, or_iff_right hempty]

/-- The entries of the map of a list of pairs are pairs of the list. -/
theorem mem_of_mem_ofList {p : String × α} {pairs : List (String × α)} (h : p ∈ (ofList pairs).entries) : p ∈ pairs := by
  have hfold : ∀ m : NameMap α, p ∈ (pairs.foldl (fun m p => m.insert p.1 p.2) m).entries → p ∈ m.entries ∨ p ∈ pairs := by
    clear h
    induction pairs with
    | nil => exact fun m hp => .inl hp
    | cons q pairs ih =>
      intro m hp
      rcases ih (m.insert q.1 q.2) hp with hp | hp
      · rcases mem_insertSorted hp with rfl | hp
        · exact .inr List.mem_cons_self
        · exact .inl hp
      · exact .inr (List.mem_cons_of_mem q hp)
  exact (hfold empty h).resolve_left List.not_mem_nil

theorem eq_of_entries {m m' : NameMap α} (h : m.entries = m'.entries) : m = m' := by
  cases m
  cases m'
  simp_all

end NameMap

/-- A set of names. -/
abbrev NameSet := NameMap Unit

namespace NameSet

/-- The set of the names in a list. -/
def ofNames (names : List String) : NameSet :=
  NameMap.ofList (names.map fun n => (n, ()))

end NameSet

end ApiOutline
