import ApiOutline.Proofs.Resolution.Account

/-!
# States that only grow

No task takes anything back.  Models and diagnostics are put at the end of what is there, a definition that is
finished stays finished, and so it is after any number of tasks.  The definitions in progress are the exception:
they come and go.  But a definition is finished on the same way on which it is opened, so tasks that do not finish
definitions of their own accord leave the ones in progress as they were.

What has been followed once need not be followed again.  A reference leads to a definition that has been met then,
and it stays so, whatever happens later; the second time there is nothing to do but to record, once more, the
references without a definition.

* `Progress.Extends`: a state with something added.
* `Scope.extends_advance`, `Scope.extends_run`: one task, and all tasks.
* `Scope.inProgress_run`: the definitions in progress.
* `Scope.run_followAll_of_met`: following references that have been followed before.
-/

namespace ApiOutline

/-! ## What is added -/

/-- The models of a registry stay in their places when another one is added. -/
theorem Registry.models_prefix_add (r : Registry) (m : Model) : r.models <+: (r.add m).models := by
  cases hname : r.contains m.name with
  | true =>
    have hsame : (r.add m).models = r.models ++ [] := by rw [Registry.add_of_contains hname, List.append_nil]
    exact ⟨[], hsame.symm⟩
  | false =>
    rw [Registry.models_add_of_not_contains hname]
    exact List.prefix_append _ _

/-- The state `t` is the state `s` with something added.  The models and the diagnostics of `s` stand at the
beginning of those of `t`, and what is finished in `s` is finished in `t`. -/
structure Progress.Extends (s t : Progress) : Prop where
  models : s.registry.models <+: t.registry.models
  diagnostics : s.diagnostics <+: t.diagnostics
  resolved : s.resolved ⊆ t.resolved

namespace Progress.Extends

theorem refl (s : Progress) : s.Extends s where
  models := List.prefix_refl _
  diagnostics := List.prefix_refl _
  resolved := fun _ h => h

theorem trans {s t u : Progress} (hst : s.Extends t) (htu : t.Extends u) : s.Extends u where
  models := hst.models.trans htu.models
  diagnostics := hst.diagnostics.trans htu.diagnostics
  resolved := fun _ h => htu.resolved (hst.resolved h)

/-- The definitions in progress do not count. -/
theorem enter (s : Progress) (key : String) : s.Extends (s.enter key) where
  models := List.prefix_refl _
  diagnostics := List.prefix_refl _
  resolved := fun _ h => h

theorem note (s : Progress) (x : Diagnostic) : s.Extends (s.note x) where
  models := List.prefix_refl _
  diagnostics := List.prefix_append _ _
  resolved := fun _ h => h

theorem register (s : Progress) (m : Model) : s.Extends (s.register m) where
  models := s.registry.models_prefix_add m
  diagnostics := List.prefix_refl _
  resolved := fun _ h => h

end Progress.Extends

namespace Scope

variable (scope : Scope)

/-! ## One task -/

theorem extends_finish (s : Progress) (key : String) : s.Extends (scope.finish s key) := by
  have hleft : s.Extends
      { s with inProgress := s.inProgress.erase key, resolved := key :: s.resolved } :=
    ⟨List.prefix_refl _, List.prefix_refl _, fun _ h => List.mem_cons_of_mem _ h⟩
  unfold finish
  split
  · exact hleft
  split
  · exact hleft.trans (.register _ _)
  · exact hleft

theorem extends_offer (s : Progress) (path : String) (m : Model) : s.Extends (offer s path m) := by
  unfold offer
  split
  · split
    · exact .refl s
    · exact .note s _
  · exact .register s m

/-- **A task takes nothing back.** -/
theorem extends_advance (s : Progress) (t : Task) : s.Extends (scope.advance s t).1 := by
  cases t with
  | follow r =>
    rcases scope.advance_follow_cases s r with ⟨-, hadv⟩ | ⟨_, -, -, hadv⟩ | ⟨_, -, -, hadv⟩ <;> rw [hadv]
    · exact .note s _
    · exact .refl s
    · exact .enter s _
  | finish key => exact scope.extends_finish s key
  | note x => exact .note s x
  | offer path m => exact extends_offer s path m

/-! ## All tasks -/

/-- **A run takes nothing back.** -/
theorem extends_run (s : Progress) (ts : List Task) : s.Extends (scope.run s ts) :=
  scope.run_of_advance (P := s.Extends) (fun s' t h => h.trans (scope.extends_advance s' t)) (.refl s) ts

/-- Tasks that do not finish definitions of their own accord leave the ones in progress as they were. -/
theorem inProgress_run {ts : List Task} (hts : ∀ t ∈ ts, t.finishes? = none) (s : Progress) :
    (scope.run s ts).inProgress = s.inProgress := by
  induction ts generalizing s with
  | nil => rw [run_nil]
  | cons t ts ih =>
    have hrest : ∀ t ∈ ts, t.finishes? = none := fun u hu => hts u (List.mem_cons_of_mem _ hu)
    -- the first task is done with all that it brings, and then the others
    rw [← List.singleton_append, run_append, ih hrest]
    cases t with
    | follow r => exact scope.inProgress_run_followAll s [r]
    | finish key => exact absurd (hts _ List.mem_cons_self) (by simp [Task.finishes?])
    | note x =>
      rw [run_singleton, advance, run_nil]
      rfl
    | offer path m => rw [run_singleton, advance, run_nil, inProgress_offer]

/-! ## Following references again -/

/-- A reference that has been followed leads to a definition that has been met, if there is one. -/
theorem met_run_followAll (s : Progress) {rs : List String} {r : String} (hr : r ∈ rs)
    (hdef : (scope.document.definition? r).isSome = true) :
    (scope.run s (followAll rs)).met (refKey r) = true := by
  obtain ⟨before, after, rfl⟩ := List.append_of_mem hr
  rw [followAll_append, followAll_cons, run_append, run_cons]
  refine scope.met_run ?_ _
  rcases scope.advance_follow_cases (scope.run s (followAll before)) r with ⟨hnone, -⟩ |
    ⟨_, -, hmet, hadv⟩ | ⟨_, -, -, hadv⟩
  · rw [hnone] at hdef
    exact absurd hdef (by simp)
  · rw [hadv]
    exact hmet
  · rw [hadv]
    exact Progress.met_enter_self _ _

/-- **Following references to definitions that have been met.**  All that comes of it is a note for each
reference without a definition. -/
theorem run_followAll_of_met {rs : List String} {s : Progress}
    (hmet : ∀ r ∈ rs, (scope.document.definition? r).isSome = true → s.met (refKey r) = true) :
    scope.run s (followAll rs) =
      { s with diagnostics :=
          s.diagnostics ++ scope.document.missingNotes s.inProgress.getLast? rs } := by
  induction rs generalizing s with
  | nil =>
    rw [followAll_nil, run_nil, Document.missingNotes, List.filter_nil, List.map_nil, List.append_nil]
  | cons r rs ih =>
    have hrest : ∀ r' ∈ rs, (scope.document.definition? r').isSome = true → s.met (refKey r') = true :=
      fun r' hr' => hmet r' (List.mem_cons_of_mem _ hr')
    have hnotes := scope.document.missingNotes_append s.inProgress.getLast? [r] rs
    rw [List.singleton_append] at hnotes
    rw [followAll_cons, run_cons, hnotes]
    rcases scope.advance_follow_cases s r with ⟨hdef, hadv⟩ | ⟨definition, hdef, -, hadv⟩ |
      ⟨definition, hdef, hunmet, -⟩
    · -- the note does not change what has been met
      have hmissing : scope.document.missingNotes s.inProgress.getLast? [r] =
          [.unresolvedReference (s.subject r) r] := by
        simp [Document.missingNotes, hdef, Progress.subject]
      have hnoted := ih (s := s.note (.unresolvedReference (s.subject r) r)) hrest
      rw [hadv, hmissing, ← List.append_assoc]
      exact hnoted
    · have hfound : scope.document.missingNotes s.inProgress.getLast? [r] = [] := by
        simp [Document.missingNotes, hdef]
      rw [hadv, List.nil_append, ih hrest, hfound, List.nil_append]
    · have hmet := hmet r List.mem_cons_self (by rw [hdef]; rfl)
      rw [hmet] at hunmet
      exact absurd hunmet (by simp)

/-- **Following references a second time.**  Whatever has been done in between, all that comes of it is a note
for each reference without a definition. -/
theorem run_followAll_again (s : Progress) (rs : List String) (between : List Task) :
    let before := scope.run (scope.run s (followAll rs)) between
    scope.run before (followAll rs) =
      { before with diagnostics :=
          before.diagnostics ++ scope.document.missingNotes before.inProgress.getLast? rs } :=
  scope.run_followAll_of_met fun _ hr hdef => scope.met_run (scope.met_run_followAll s hr hdef) between

end Scope

end ApiOutline
