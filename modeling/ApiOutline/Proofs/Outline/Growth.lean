import ApiOutline.Proofs.Outline.CycleSafety
import ApiOutline.Proofs.Resolution.Growth

/-!
# Calls only add

A call may be made in any state, be it from inside a definition or outside of all, be its registry empty or not,
be definitions finished that lead to others that are not.  It finds the definitions in progress again when it is
done, and apart from these it only adds to the state.  A lookup that is made a second time finds everything done.

* `Call.inProgress_walk`, `Call.extends_walk`: what a call leaves as it was, and what it adds to.
* `Lookup.walk_again`: a lookup for the second time.
* `calls_only_add`: the main statement.
-/

namespace ApiOutline

namespace Call

variable (scope : Scope) (rules : NamingRules)

/-- A call ends where a run through its tasks ends. -/
theorem snd_walk (call : Call) (s : Progress) :
    (call.walk scope rules s).2 = scope.run s (call.tasks scope.document) := by
  have hwalk : scope.Performs (scope.unmet s + 1) (call.walk scope rules) () (call.tasks scope.document) :=
    performs_walk rules call
  rw [hwalk s (Nat.lt_succ_self _)]

/-- A call opens definitions and closes them again. -/
theorem inProgress_walk (call : Call) (s : Progress) :
    (call.walk scope rules s).2.inProgress = s.inProgress := by
  have hfinishes := finishes?_tasks scope.document call
  rw [snd_walk]
  exact scope.inProgress_run (List.filterMap_eq_nil_iff.mp hfinishes) s

theorem extends_walk (call : Call) (s : Progress) : s.Extends (call.walk scope rules s).2 := by
  rw [snd_walk]
  exact scope.extends_run s _

end Call

namespace Lookup

/-- A lookup ends where a run through its references ends. -/
theorem snd_walk (scope : Scope) (l : Lookup) (s : Progress) :
    (l.walk scope s).2 = scope.run s (followAll l.references) := by
  have hwalk : scope.Performs (scope.unmet s + 1) (l.walk scope) (l.type? scope.document)
      (followAll l.references) := l.performs_walk
  rw [hwalk s (Nat.lt_succ_self _)]

/-- **A lookup for the second time.**  Whatever has been done since the first time, it registers nothing and finishes
nothing; it records its own references without a definition once more. -/
theorem walk_again (scope : Scope) (l : Lookup) (s : Progress) (between : List Task) :
    let before := scope.run (l.walk scope s).2 between
    (l.walk scope before).2 =
      { before with diagnostics :=
          before.diagnostics ++ scope.document.missingNotes before.inProgress.getLast? l.references } := by
  intro before
  have hbefore : before = scope.run (scope.run s (followAll l.references)) between := by
    rw [← snd_walk]
  rw [snd_walk, hbefore]
  exact scope.run_followAll_again s l.references between

end Lookup

/-- **Calls only add to the state.**  In any state whatever, a lookup, the parts of an operation and the whole of it
leave the definitions in progress as they were; the models and the diagnostics that are there stay in their places,
with new ones behind them, and what is finished stays finished.  A lookup that is made again, be it after any other
tasks, inside definitions or outside of all, leaves the registry and the finished definitions as they are. -/
theorem calls_only_add (scope : Scope) (rules : NamingRules) (s : Progress) :
    (∀ call : Call, (call.walk scope rules s).2.inProgress = s.inProgress ∧
      s.registry.models <+: (call.walk scope rules s).2.registry.models ∧
      s.diagnostics <+: (call.walk scope rules s).2.diagnostics ∧
      s.resolved ⊆ (call.walk scope rules s).2.resolved) ∧
    (∀ (l : Lookup) (between : List Task),
      let before := scope.run (l.walk scope s).2 between
      (l.walk scope before).2.registry = before.registry ∧
        (l.walk scope before).2.resolved = before.resolved) := by
  constructor
  · intro call
    have hadded := call.extends_walk scope rules s
    exact ⟨call.inProgress_walk scope rules s, hadded.models, hadded.diagnostics, hadded.resolved⟩
  · intro l between before
    have hagain := l.walk_again scope s between
    constructor
    · rw [hagain]
    · rw [hagain]

end ApiOutline
