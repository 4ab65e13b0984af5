import ApiOutline.Resolution.Walk

/-!
# What a run keeps

Facts about all runs, whatever the tasks.  What has been met stays met, so the number of definitions that
have not been met only falls.  A list of references is followed one after the other, and leaves the
definitions in progress as they were: whatever is opened on the way is finished on the way.

* `Scope.run_append`, `Scope.run_of_advance`: a run in two parts, and what every task keeps.
* `Scope.met_run`, `Scope.unmet_run_le`: what has been met stays met.
* `Scope.unmet_enter_lt`: entering a definition for the first time pays.
* `Scope.inProgress_run_followAll`: following references leaves the stack as it was.
-/

namespace ApiOutline

@[simp] theorem followAll_nil : followAll [] = [] := rfl

theorem followAll_cons (r : String) (rs : List String) :
    followAll (r :: rs) = .follow r :: followAll rs := rfl

@[simp] theorem followAll_append (rs rs' : List String) :
    followAll (rs ++ rs') = followAll rs ++ followAll rs' :=
  List.map_append

theorem followAll_flatMap {α : Type} (l : List α) (f : α → List String) :
    followAll (l.flatMap f) = l.flatMap fun a => followAll (f a) :=
  List.map_flatMap

theorem followAll_map {α : Type} (l : List α) (f : α → String) :
    followAll (l.map f) = l.flatMap fun a => [.follow (f a)] := by
  induction l with
  | nil => rfl
  | cons a l ih => rw [List.map_cons, followAll_cons, ih]; rfl

namespace Scope

variable (scope : Scope)

/-! ## Runs in parts -/

theorem run_append (s : Progress) (ts us : List Task) :
    scope.run s (ts ++ us) = scope.run (scope.run s ts) us := by
  induction s, ts using Scope.run.induct scope with
  | case1 s => rw [List.nil_append, run_nil]
  | case2 s t ts ih => rw [List.cons_append, run_cons, run_cons, ← List.append_assoc, ih]

theorem run_singleton (s : Progress) (t : Task) :
    scope.run s [t] = scope.run (scope.advance s t).1 (scope.advance s t).2 := by
  rw [run_cons, List.append_nil]

/-- What every task keeps of the state, a run keeps. -/
theorem run_of_advance {P : Progress → Prop} (hadvance : ∀ s t, P s → P (scope.advance s t).1) {s : Progress} (h : P s)
    (ts : List Task) : P (scope.run s ts) := by
  induction s, ts using Scope.run.induct scope with
  | case1 s => rwa [run_nil]
  | case2 s t ts ih =>
    rw [run_cons]
    exact ih (hadvance s t h)

/-! ## What has been met stays met -/

theorem met_advance {s : Progress} {key : String} (h : s.met key = true) (t : Task) :
    (scope.advance s t).1.met key = true := by
  cases t with
  | follow reference =>
    simp only [advance]
    split
    · exact h
    split
    · exact h
    · exact Progress.met_enter h
  | finish key' => exact met_finish scope s key' key h
  | note d => exact h
  | offer path m => rw [advance, met_offer]; exact h

theorem met_run {s : Progress} {key : String} (h : s.met key = true) (ts : List Task) :
    (scope.run s ts).met key = true :=
  scope.run_of_advance (P := fun s => s.met key = true) (fun _ t h => scope.met_advance h t) h ts

/-! ## One step along a reference -/

/-- What following a reference can do: record that there is no definition, pass by one that has been
met, or enter one. -/
theorem advance_follow_cases (s : Progress) (reference : String) :
    (scope.document.definition? reference = none ∧ scope.advance s (.follow reference) =
      (s.note (.unresolvedReference (s.subject reference) reference), [])) ∨
    (∃ definition, scope.document.definition? reference = some definition ∧
      s.met (refKey reference) = true ∧ scope.advance s (.follow reference) = (s, [])) ∨
    (∃ definition, scope.document.definition? reference = some definition ∧
      s.met (refKey reference) = false ∧ scope.advance s (.follow reference) =
        (s.enter (refKey reference), scope.brings (refKey reference) definition)) := by
  cases hdef : scope.document.definition? reference with
  | none => exact Or.inl ⟨rfl, by simp only [advance, hdef]⟩
  | some definition =>
    cases hmet : s.met (refKey reference) with
    | true => exact Or.inr (Or.inl ⟨definition, rfl, rfl, by simp [advance, hdef, hmet]⟩)
    | false => exact Or.inr (Or.inr ⟨definition, rfl, rfl, by simp [advance, hdef, hmet]⟩)

/-- The tasks that a task brings follow references and finish definitions. -/
theorem mem_advance (s : Progress) (t : Task) {t' : Task} (h : t' ∈ (scope.advance s t).2) :
    (∃ r, t' = .follow r) ∨ ∃ key, t' = .finish key := by
  cases t with
  | follow r =>
    rcases scope.advance_follow_cases s r with ⟨-, hadv⟩ | ⟨_, -, -, hadv⟩ | ⟨definition, -, -, hadv⟩ <;>
      rw [hadv] at h
    · exact absurd h List.not_mem_nil
    · exact absurd h List.not_mem_nil
    · rcases List.mem_append.mp h with h | h
      · obtain ⟨r, -, rfl⟩ := List.mem_map.mp h
        exact Or.inl ⟨r, rfl⟩
      rcases List.mem_cons.mp h with rfl | h
      · exact Or.inr ⟨_, rfl⟩
      · obtain ⟨r, -, rfl⟩ := List.mem_map.mp h
        exact Or.inl ⟨r, rfl⟩
  | finish key => exact absurd h List.not_mem_nil
  | note x => exact absurd h List.not_mem_nil
  | offer path m => exact absurd h List.not_mem_nil

/-- The tasks that a task brings never offer a model. -/
theorem offer_notMem_advance (s : Progress) (t : Task) (path : String) (m : Model) :
    .offer path m ∉ (scope.advance s t).2 := by
  intro h
  rcases scope.mem_advance s t h with ⟨_, h⟩ | ⟨_, h⟩ <;> exact absurd h (by simp)

/-- The tasks of a definition: its properties, its end, its type arguments. -/
theorem run_brings (s : Progress) (key : String) (definition : Schema) :
    scope.run s (scope.brings key definition) =
      scope.run (scope.finish (scope.run s (followAll (memberReferences key definition))) key)
        (followAll ((scope.document.argumentKeys key).map (definitionsHead ++ ·))) := by
  rw [brings, run_append, run_cons, advance, List.nil_append]

@[simp] theorem inProgress_finish (s : Progress) (key : String) :
    (scope.finish s key).inProgress = s.inProgress.erase key := by
  unfold finish
  split
  · rfl
  split <;> rfl

@[simp] theorem resolved_finish (s : Progress) (key : String) :
    (scope.finish s key).resolved = key :: s.resolved := by
  unfold finish
  split
  · rfl
  split <;> rfl

/-- Finishing a definition that has been met leaves what has been met as it was. -/
theorem met_finish_of_met {s : Progress} {key key' : String} (h : s.met key = true) :
    (scope.finish s key).met key' = s.met key' := by
  refine Bool.eq_iff_iff.mpr ⟨fun hmet => ?_, scope.met_finish s key key'⟩
  rw [Progress.met_eq_true_iff, resolved_finish, inProgress_finish] at hmet
  rcases hmet with hmet | hmet
  · rcases List.mem_cons.mp hmet with rfl | hmet
    · exact h
    · exact Progress.met_eq_true_iff.mpr (Or.inl hmet)
  · exact Progress.met_eq_true_iff.mpr (Or.inr (List.mem_of_mem_erase hmet))

/-- Finishing the innermost definition takes it off the stack. -/
theorem inProgress_finish_of_enter {s t : Progress} {key : String} (hmet : s.met key = false)
    (ht : t.inProgress = (s.enter key).inProgress) :
    (scope.finish t key).inProgress = s.inProgress := by
  have hkey : key ∉ s.inProgress := fun h => by
    rw [Progress.met_eq_true_iff.mpr (Or.inr h)] at hmet
    exact absurd hmet (by simp)
  rw [inProgress_finish, ht, Progress.enter, List.erase_append_right _ hkey]
  simp

/-- **Following references leaves the stack of definitions as it was.**  The induction is on what is
owed and what is to follow together: entering a definition pays for the references inside it. -/
theorem inProgress_run_followAll (s : Progress) (rs : List String) :
    (scope.run s (followAll rs)).inProgress = s.inProgress := by
  induction hn : scope.owed s + rs.length using Nat.strongRecOn generalizing s rs with
  | _ n ih =>
    cases rs with
    | nil => rw [followAll_nil, run_nil]
    | cons r rs =>
      have hpay := scope.owed_advance s (.follow r)
      rw [List.length_cons] at hn
      rw [followAll_cons, run_cons]
      rcases scope.advance_follow_cases s r with ⟨-, hadv⟩ | ⟨_, -, -, hadv⟩ |
        ⟨definition, -, hmet, hadv⟩ <;> simp only [hadv, List.nil_append] at hpay ⊢
      · exact ih _ (by rw [List.length_nil] at hpay; omega) _ rs rfl
      · exact ih _ (by omega) _ rs rfl
      · -- inside the definition, at its end, and behind it
        simp only [brings, List.length_append, List.length_cons, followAll, List.length_map]
          at hpay
        have hinside := ih _ (by omega) (s.enter (refKey r)) (memberReferences (refKey r) definition)
          rfl
        have hend := scope.inProgress_finish_of_enter hmet hinside
        rw [run_append, run_brings, ← run_append, ← followAll_append, ← hend]
        refine ih _ ?_ _ _ rfl
        have hgrow : scope.owed (scope.finish (scope.run (s.enter (refKey r))
            (followAll (memberReferences (refKey r) definition))) (refKey r)) ≤
              scope.owed (s.enter (refKey r)) :=
          owed_le fun key h => met_finish _ _ _ _ (scope.met_run h _)
        simp only [List.length_append, List.length_map]
        omega

/-! ## Definitions that have not been met -/

theorem unmet_le {s t : Progress} (h : ∀ key, s.met key = true → t.met key = true) :
    scope.unmet t ≤ scope.unmet s := by
  refine List.countP_mono_left fun key _ hkey => ?_
  cases hs : s.met key with
  | false => rfl
  | true => rw [h key hs] at hkey; exact absurd hkey (by simp)

theorem unmet_run_le (s : Progress) (ts : List Task) :
    scope.unmet (scope.run s ts) ≤ scope.unmet s :=
  scope.unmet_le fun _ h => scope.met_run h ts

theorem countP_lt_countP {α : Type} {p q : α → Bool} {l : List α} {a : α} (ha : a ∈ l)
    (h : ∀ b ∈ l, p b = true → q b = true) (hp : p a = false) (hq : q a = true) :
    l.countP p < l.countP q := by
  obtain ⟨l₁, l₂, rfl⟩ := List.append_of_mem ha
  have h₁ : l₁.countP p ≤ l₁.countP q :=
    List.countP_mono_left fun b hb => h b (List.mem_append_left _ hb)
  have h₂ : l₂.countP p ≤ l₂.countP q :=
    List.countP_mono_left fun b hb => h b (List.mem_append_right _ (List.mem_cons_of_mem _ hb))
  simp only [List.countP_append, List.countP_cons, hp, hq]
  simp only [Bool.false_eq_true, if_false, if_true]
  omega

theorem mem_keys_of_definition? {d : Document} {reference : String} {definition : Schema}
    (h : d.definition? reference = some definition) : refKey reference ∈ d.definitions.keys :=
  Dict.mem_keys_of_isSome (Option.isSome_iff_exists.mpr ⟨definition, h⟩)

/-- Entering a definition for the first time leaves fewer that have not been met. -/
theorem unmet_enter_lt {s : Progress} {reference : String} {definition : Schema}
    (hdef : scope.document.definition? reference = some definition)
    (hmet : s.met (refKey reference) = false) :
    scope.unmet (s.enter (refKey reference)) < scope.unmet s := by
  refine countP_lt_countP (mem_keys_of_definition? hdef) (fun key _ hkey => ?_) ?_ ?_
  · cases hs : s.met key with
    | false => rfl
    | true => rw [Progress.met_enter hs] at hkey; exact absurd hkey (by simp)
  · rw [Progress.met_enter_self]; rfl
  · rw [hmet]; rfl

/-! ## Where models come from -/

theorem mem_models_add {registry : Registry} {m m' : Model} (h : m ∈ (registry.add m').models) :
    m ∈ registry.models ∨ m = m' := by
  cases hname : registry.contains m'.name with
  | true => exact Or.inl (by rwa [Registry.add_of_contains hname] at h)
  | false =>
    rw [Registry.models_add_of_not_contains hname, List.mem_append, List.mem_singleton] at h
    exact h

theorem mem_models_finish {s : Progress} {key : String} {m : Model}
    (h : m ∈ (scope.finish s key).registry.models) :
    m ∈ s.registry.models ∨ ∃ definition, scope.document.definitions.get? key = some definition ∧
      m = scope.model key definition ∧ Builtin.isName (modelName key) = false := by
  unfold finish at h
  split at h
  · exact Or.inl h
  next hbuiltin =>
  split at h
  · next definition hdef =>
    exact (mem_models_add h).imp_right fun e => ⟨definition, hdef, e, by simpa using hbuiltin⟩
  · exact Or.inl h

theorem mem_models_offer {s : Progress} {path : String} {m m' : Model}
    (h : m ∈ (offer s path m').registry.models) : m ∈ s.registry.models ∨ m = m' := by
  unfold offer at h
  split at h
  · split at h
    · exact Or.inl h
    · exact Or.inl h
  · exact mem_models_add h

/-- A model that a run registers is the one of a definition it has met, or one that its tasks offer. -/
theorem mem_models_run {s : Progress} {ts : List Task} {m : Model}
    (h : m ∈ (scope.run s ts).registry.models) :
    m ∈ s.registry.models ∨ (∃ path, .offer path m ∈ ts) ∨ ∃ key definition,
      scope.document.definitions.get? key = some definition ∧ m = scope.model key definition ∧
        Builtin.isName (modelName key) = false ∧ (scope.run s ts).met key = true := by
  induction s, ts using Scope.run.induct scope with
  | case1 s => exact Or.inl (by rwa [run_nil] at h)
  | case2 s t ts ih =>
    rw [run_cons] at h ⊢
    rcases ih h with hstate | ⟨path, htask⟩ | hmodel
    · cases t with
      | follow reference =>
        rcases scope.advance_follow_cases s reference with ⟨-, hadv⟩ | ⟨_, -, -, hadv⟩ |
          ⟨_, -, -, hadv⟩ <;> rw [hadv] at hstate <;> exact Or.inl hstate
      | finish key =>
        refine (mem_models_finish scope hstate).imp_right fun ⟨definition, hdef, e, hbuiltin⟩ => ?_
        refine Or.inr ⟨key, definition, hdef, e, hbuiltin, scope.met_run ?_ _⟩
        exact Progress.met_eq_true_iff.mpr (Or.inl (by simp [advance]))
      | note d => exact Or.inl hstate
      | offer path m' =>
        refine (mem_models_offer hstate).imp_right fun e => Or.inl ⟨path, ?_⟩
        rw [e]
        exact List.mem_cons_self
    · rcases List.mem_append.mp htask with hnew | hold
      · exact absurd hnew (scope.offer_notMem_advance s t path m)
      · exact Or.inr (Or.inl ⟨path, List.mem_cons_of_mem _ hold⟩)
    · exact Or.inr (Or.inr hmodel)

end Scope

end ApiOutline
