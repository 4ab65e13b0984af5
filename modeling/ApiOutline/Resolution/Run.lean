import ApiOutline.Model.Registry
import ApiOutline.Outline.Diagnostic
import ApiOutline.Resolution.References

/-!
# Runs

A run walks the definitions that references lead to and registers their models.  It works through a
list of tasks.  A task may put further ones in front of the list: following a reference to a
definition that has not been met puts there the references of its properties, then the task that
finishes it, then its type arguments.

A definition is met once.  While its properties are walked its key is in progress, afterwards it is
resolved, and a reference to either is not followed again.  So a run comes to an end whatever circles
the definitions form: each task pays for itself, and a definition pays once for the tasks it brings.

* `Progress`: the state of a run.
* `Task`: what there is to do.
* `Scope.advance`: one task.
* `Scope.run`: all tasks.
-/

namespace ApiOutline

/-! ## States and tasks -/

/-- The state of a run. -/
structure Progress where
  registry : Registry
  /-- The diagnostics, in the order in which they arose. -/
  diagnostics : List Diagnostic
  /-- The keys of the definitions whose properties are being walked, innermost last. -/
  inProgress : List String
  /-- The keys of the definitions whose properties have been walked, latest first. -/
  resolved : List String
  deriving DecidableEq, Inhabited

namespace Progress

/-- The state before any task. -/
def start : Progress := ⟨.empty, [], [], []⟩

/-- Whether the definition with this key has been met. -/
def met (s : Progress) (key : String) : Bool :=
  s.resolved.contains key || s.inProgress.contains key

/-- The number of definitions being walked. -/
def depth (s : Progress) : Nat :=
  s.inProgress.length

/-- What a diagnostic is about: the definition being walked, or `other` outside of any. -/
def subject (s : Progress) (other : String) : String :=
  s.inProgress.getLast?.getD other

/-- The state when the properties of the definition with this key come to be walked. -/
def enter (s : Progress) (key : String) : Progress :=
  { s with inProgress := s.inProgress ++ [key] }

/-- The state with one more diagnostic. -/
def note (s : Progress) (d : Diagnostic) : Progress :=
  { s with diagnostics := s.diagnostics ++ [d] }

/-- The state with one more model, unless its name is taken. -/
def register (s : Progress) (m : Model) : Progress :=
  { s with registry := s.registry.add m }

theorem met_eq_true_iff {s : Progress} {key : String} :
    s.met key = true ↔ key ∈ s.resolved ∨ key ∈ s.inProgress := by
  simp only [met, Bool.or_eq_true, List.contains_iff_mem]

theorem met_enter_iff {s : Progress} {key key' : String} :
    (s.enter key).met key' = true ↔ s.met key' = true ∨ key' = key := by
  simp only [met_eq_true_iff, enter, List.mem_append, List.mem_singleton, or_assoc]

@[simp] theorem met_enter_self (s : Progress) (key : String) : (s.enter key).met key = true :=
  met_enter_iff.mpr (Or.inr rfl)

theorem met_enter {s : Progress} {key key' : String} (h : s.met key' = true) :
    (s.enter key).met key' = true :=
  met_enter_iff.mpr (Or.inl h)

end Progress

/-- Something there is to do. -/
inductive Task where
  /-- Follow a reference. -/
  | follow (reference : String)
  /-- Finish the definition with this key, whose properties have been walked. -/
  | finish (key : String)
  /-- Record a diagnostic. -/
  | note (d : Diagnostic)
  /-- Register the model of the parameters on a path. -/
  | offer (path : String) (m : Model)
  deriving DecidableEq

/-- The tasks that follow references. -/
def followAll (references : List String) : List Task :=
  references.map .follow

namespace Scope

/-! ## One task -/

/-- The tasks that a definition brings when it is met. -/
def brings (scope : Scope) (key : String) (definition : Schema) : List Task :=
  followAll (memberReferences key definition) ++ .finish key ::
    followAll ((scope.document.argumentKeys key).map (definitionsHead ++ ·))

/-- The state when the definition with this key is finished.  One that is named like a builtin is no
model. -/
def finish (scope : Scope) (s : Progress) (key : String) : Progress :=
  let s := { s with inProgress := s.inProgress.erase key, resolved := key :: s.resolved }
  if Builtin.isName (modelName key) then s
  else
    match scope.document.definitions.get? key with
    | some definition => s.register (scope.model key definition)
    | none => s

/-- The state when the model of parameters is registered.  A different model under its name is left
as it is, and the loss is recorded. -/
def offer (s : Progress) (path : String) (m : Model) : Progress :=
  match s.registry.get? m.name with
  | some existing =>
    if existing.properties = m.properties then s else s.note (.nameCollision path m.name)
  | none => s.register m

/-- The state after one task, and the tasks it brings. -/
def advance (scope : Scope) (s : Progress) : Task → Progress × List Task
  | .follow reference =>
    match scope.document.definition? reference with
    | none => (s.note (.unresolvedReference (s.subject reference) reference), [])
    | some definition =>
      let key := refKey reference
      if s.met key then (s, [])
      else (s.enter key, scope.brings key definition)
  | .finish key => (scope.finish s key, [])
  | .note d => (s.note d, [])
  | .offer path m => (offer s path m, [])

/-! ## All tasks -/

/-- What all members of a list have to pay together. -/
def total {α : Type} (price : α → Nat) (l : List α) : Nat :=
  l.foldr (fun a rest => price a + rest) 0

/-- What the definitions have still to pay: each of them a unit for every task it brings, until it is
met. -/
def owed (scope : Scope) (s : Progress) : Nat :=
  total (fun p => if s.met p.1 then 0 else (scope.brings p.1 p.2).length)
    scope.document.definitions.entries

theorem total_cons {α : Type} (f : α → Nat) (a : α) (l : List α) :
    total f (a :: l) = f a + total f l := rfl

theorem total_le {α : Type} {f g : α → Nat} {l : List α} (h : ∀ a ∈ l, f a ≤ g a) :
    total f l ≤ total g l := by
  induction l with
  | nil => exact Nat.le_refl _
  | cons a l ih =>
    have h1 := h a List.mem_cons_self
    have h2 := ih fun b hb => h b (List.mem_cons_of_mem _ hb)
    rw [total_cons, total_cons]
    omega

theorem total_add_le {α : Type} {f g : α → Nat} {l : List α} {a : α} {n : Nat} (ha : a ∈ l)
    (h : ∀ b ∈ l, f b ≤ g b) (hn : f a + n ≤ g a) : total f l + n ≤ total g l := by
  induction l with
  | nil => exact absurd ha List.not_mem_nil
  | cons b l ih =>
    have hb := h b List.mem_cons_self
    have hl : ∀ c ∈ l, f c ≤ g c := fun c hc => h c (List.mem_cons_of_mem _ hc)
    have hrest := total_le hl
    rw [total_cons, total_cons]
    rcases List.mem_cons.mp ha with rfl | ha
    · omega
    · have hlater := ih ha hl
      omega

/-- When more has been met, less is owed. -/
theorem owed_le {scope : Scope} {s t : Progress} (h : ∀ key, s.met key = true → t.met key = true) :
    scope.owed t ≤ scope.owed s := by
  refine total_le fun p _ => ?_
  by_cases hs : s.met p.1 = true
  · simp [hs, h p.1 hs]
  · rw [if_neg hs]
    split
    · exact Nat.zero_le _
    · exact Nat.le_refl _

theorem met_finish (scope : Scope) (s : Progress) (key key' : String) (h : s.met key' = true) :
    (scope.finish s key).met key' = true := by
  have hmet : ({ s with inProgress := s.inProgress.erase key, resolved := key :: s.resolved } :
      Progress).met key' = true := by
    simp only [Progress.met, Bool.or_eq_true, List.contains_iff_mem, List.mem_cons] at h ⊢
    by_cases e : key' = key
    · exact Or.inl (Or.inl e)
    · exact h.imp Or.inr fun hm => (List.mem_erase_of_ne e).mpr hm
  unfold finish
  split
  · exact hmet
  split
  · exact hmet
  · exact hmet

theorem met_offer (s : Progress) (path : String) (m : Model) (key : String) :
    (offer s path m).met key = s.met key := by
  unfold offer
  split
  · split <;> rfl
  · rfl

/-- A task pays for itself and for the tasks it brings. -/
theorem owed_advance (scope : Scope) (s : Progress) (t : Task) :
    scope.owed (scope.advance s t).1 + (scope.advance s t).2.length ≤ scope.owed s := by
  cases t with
  | follow reference =>
    simp only [advance]
    split
    · exact owed_le fun _ h => h
    · next definition hdef =>
      split
      · exact Nat.le_refl _
      · next hmet =>
        refine total_add_le (mem_of_lookup hdef) (fun p _ => ?_) ?_
        · by_cases hs : s.met p.1 = true
          · simp [hs, Progress.met_enter hs]
          · rw [if_neg hs]
            split
            · exact Nat.zero_le _
            · exact Nat.le_refl _
        · simp [s.met_enter_self, hmet]
  | finish key => exact owed_le fun key' h => met_finish scope s key key' h
  | note d => exact owed_le fun _ h => h
  | offer path m => exact owed_le fun key h => by rw [advance, met_offer]; exact h

/-- The state after all tasks, each followed by the tasks it brings. -/
def run (scope : Scope) (s : Progress) : List Task → Progress
  | [] => s
  | t :: ts => run scope (scope.advance s t).1 ((scope.advance s t).2 ++ ts)
termination_by ts => scope.owed s + ts.length
decreasing_by
  have := owed_advance scope s t
  simp only [List.length_append, List.length_cons]
  omega

@[simp] theorem run_nil (scope : Scope) (s : Progress) : scope.run s [] = s := by
  rw [run]

theorem run_cons (scope : Scope) (s : Progress) (t : Task) (ts : List Task) :
    scope.run s (t :: ts) = scope.run (scope.advance s t).1 ((scope.advance s t).2 ++ ts) := by
  rw [run]

end Scope

end ApiOutline
