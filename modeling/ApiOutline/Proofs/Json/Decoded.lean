import ApiOutline.Json.Decoder
import ApiOutline.Proofs.Except

/-!
# What decoders give

Where a decoder gives something, the decoders it is put together of have given its parts, in one level less if it has
opened a container.

* `eq_ok_of_optional`, `eq_ok_of_oneOf`: values that may be `null`, and alternatives.
* `forall_mem_of_list`, `forall_mem_of_dict`: lists and dictionaries.
-/

namespace ApiOutline.Json

variable {α β : Type}

/-! ## Results -/

theorem eq_ok_of_unlessFault {f : Option Fault} {next : Except Failure α} {a : α}
    (h : unlessFault f next = .ok a) : next = .ok a := by
  cases f with
  | none => exact h
  | some f => exact absurd h (by simp [unlessFault, failFault])

theorem mismatch_ne_ok (want : Want) (node : Node) (a : α) : mismatch want node ≠ .ok a := by
  cases node with
  | number n => exact fun h => absurd (eq_ok_of_unlessFault h) (by simp [failData])
  | _ => simp [mismatch, failData, failFault]

/-! ## Decoders -/

namespace Decoder

variable {d : Decoder α} {levels : Nat} {node : Node} {a : α}

theorem eq_ok_of_optional {o : Option α} (h : d.optional levels node = .ok o) {a : α} (ha : o = some a) :
    d levels node = .ok a := by
  unfold optional at h
  split at h
  · obtain rfl := Except.ok.inj h
    exact absurd ha (by simp)
  · obtain ⟨b, hb, rfl⟩ := eq_ok_of_map h
    rw [hb, Option.some_inj.mp ha]

/-- One of the alternatives gives the result. -/
theorem eq_ok_of_oneOf {name : String} {ds : List (Decoder α)} (h : oneOf name ds levels node = .ok a) :
    ∃ d ∈ ds, d levels node = .ok a := by
  have h := eq_ok_of_unlessFault h
  split at h
  · next found hfound =>
    obtain rfl := Except.ok.inj h
    obtain ⟨d, hd, hdecodes⟩ := List.exists_of_findSome?_eq_some hfound
    exact ⟨d, hd, eq_ok_of_toOption hdecodes⟩
  · exact absurd h (by simp [failData])

/-- One of two alternatives gives the result. -/
theorem eq_ok_of_oneOf_pair {name : String} {d d' : Decoder α} (h : oneOf name [d, d'] levels node = .ok a) :
    d levels node = .ok a ∨ d' levels node = .ok a := by
  obtain ⟨tried, htried, hread⟩ := eq_ok_of_oneOf h
  rcases List.mem_cons.mp htried with rfl | htried
  · exact Or.inl hread
  · exact Or.inr (List.mem_singleton.mp htried ▸ hread)

theorem forall_mem_of_items {d : Node → Except Failure α} {ns : List Node} {as : List α}
    (h : items d ns = .ok as) : ∀ a ∈ as, ∃ n, d n = .ok a := by
  induction ns generalizing as with
  | nil =>
    obtain rfl := Except.ok.inj h
    exact fun _ ha => absurd ha List.not_mem_nil
  | cons n ns ih =>
    obtain ⟨b, hb, h⟩ := eq_ok_of_bind h
    obtain ⟨bs, hbs, h⟩ := eq_ok_of_bind h
    obtain rfl := Except.ok.inj h
    exact List.forall_mem_cons.mpr ⟨⟨n, hb⟩, ih hbs⟩

/-- The entries of a list are given by the decoder of its items. -/
theorem forall_mem_of_list {as : List α} (h : list d levels node = .ok as) :
    ∃ inner, levels = inner + 1 ∧ ∀ a ∈ as, ∃ n, d inner n = .ok a := by
  unfold list at h
  split at h
  · split at h
    · exact absurd h (by simp [failFault])
    · obtain ⟨bs, hbs, h⟩ := eq_ok_of_bind h
      obtain rfl := Except.ok.inj (eq_ok_of_unlessFault h)
      exact ⟨levels - 1, by omega, forall_mem_of_items hbs⟩
  · exact absurd h (mismatch_ne_ok _ _ _)

theorem forall_mem_of_members {d : Node → Except Failure α} {ms : List (Except Fault String × Node)}
    {before result : Dict α} (h : members d before ms = .ok result)
    (hbefore : ∀ e ∈ before.entries, ∃ n, d n = .ok e.2) : ∀ e ∈ result.entries, ∃ n, d n = .ok e.2 := by
  induction ms generalizing before with
  | nil =>
    obtain rfl := Except.ok.inj h
    exact hbefore
  | cons m ms ih =>
    obtain ⟨key, n⟩ := m
    cases key with
    | error f => exact absurd h (by simp [members, failFault])
    | ok key =>
      obtain ⟨a, ha, h⟩ := eq_ok_of_bind h
      refine ih h fun e he => ?_
      rcases mem_upsert he with rfl | he
      · exact ⟨n, ha⟩
      · exact hbefore e he

/-- The values of a dictionary are given by the decoder of its values. -/
theorem forall_mem_of_dict {result : Dict α} (h : dict d levels node = .ok result) :
    ∃ inner, levels = inner + 1 ∧ ∀ e ∈ result.entries, ∃ n, d inner n = .ok e.2 := by
  unfold dict at h
  split at h
  · split at h
    · exact absurd h (by simp [failFault])
    · obtain ⟨found, hfound, h⟩ := eq_ok_of_bind h
      obtain rfl := Except.ok.inj (eq_ok_of_unlessFault h)
      exact ⟨levels - 1, by omega,
        forall_mem_of_members hfound fun _ he => absurd he List.not_mem_nil⟩
  · exact absurd h (mismatch_ne_ok _ _ _)

end Decoder

end ApiOutline.Json
