/-!
# Results and errors

What a computation that can fail was made of, if it has come to a result.
-/

namespace ApiOutline

variable {ε α β : Type}

theorem eq_ok_of_bind {x : Except ε α} {f : α → Except ε β} {z : β}
    (h : (x >>= f) = .ok z) : ∃ y, x = .ok y ∧ f y = .ok z := by
  cases x with
  | error e => exact absurd h (by simp [bind, Except.bind])
  | ok y => exact ⟨y, rfl, h⟩

theorem eq_ok_of_map {x : Except ε α} {f : α → β} {z : β} (h : x.map f = .ok z) :
    ∃ y, x = .ok y ∧ f y = z := by
  cases x with
  | error e => exact absurd h (by simp [Except.map])
  | ok y => exact ⟨y, rfl, Except.ok.inj h⟩

theorem eq_ok_of_toOption {x : Except ε α} {z : α} (h : x.toOption = some z) : x = .ok z := by
  cases x with
  | error e => exact absurd h (by simp [Except.toOption])
  | ok y => rw [Option.some_inj.mp h]

theorem toOption_map (x : Except ε α) (f : α → β) : (x.map f).toOption = x.toOption.map f := by
  cases x <;> rfl

/-- A list is given back item by item. -/
theorem mapM_eq_ok {f : β → Except ε α} {g : α → β} {items : List α}
    (h : ∀ a ∈ items, f (g a) = .ok a) : (items.map g).mapM f = .ok items := by
  induction items with
  | nil => rfl
  | cons a items ih =>
    obtain ⟨ha, hitems⟩ := List.forall_mem_cons.mp h
    rw [List.map_cons, List.mapM_cons, ha, ih hitems]
    rfl

end ApiOutline
