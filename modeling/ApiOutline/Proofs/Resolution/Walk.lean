import ApiOutline.Proofs.Resolution.Asks
import ApiOutline.Proofs.Resolution.Run

/-!
# Walks and runs

A walk and a run do the same in two ways: the walk calls itself at every reference, the run works through
a list of tasks.  From every state, the walk along a reference ends where the run through the one task to
follow it ends, and the type it gives depends on the document alone.

`Performs` is the relation that carries this through the walks.  It composes: a walk after a walk performs
the tasks of both.  A walk through a schema or a definition asks for references and does nothing else, so it
performs the tasks to follow them, under the assumption that following a reference inside it does what it
should; the assumption is discharged by induction on the number of definitions that have not been met.

* `Scope.Performs`: what a walk gives and does.
* `Scope.performs_of_asks`: the walks through schemas and definitions.
* `Scope.follows_follow`: the walk along a reference.
* `Scope.follow_eq`: following a reference, by means of itself.
* `Scope.followEach_apply`, `Scope.walkMembers_apply`: references that are followed one after the other.
* `Lookup.performs_walk`: the walks that a caller may ask for.
-/

namespace ApiOutline

namespace Walk

variable {α β : Type}

theorem bind_apply (w : Walk α) (k : α → Walk β) (s : Progress) :
    (w >>= k) s = k (w s).1 (w s).2 := rfl

theorem get_apply (s : Progress) : (get : Walk Progress) s = (s, s) := rfl

theorem modify_apply (f : Progress → Progress) (s : Progress) :
    (modify f : Walk PUnit) s = (⟨⟩, f s) := rfl

end Walk

namespace Scope

variable {scope : Scope} {n : Nat} {α β : Type}

/-- In every state with fewer than `n` definitions still to be met, the walk `w` gives the value `a` and
ends where a run through the tasks `ts` ends. -/
def Performs (scope : Scope) (n : Nat) (w : Walk α) (a : α) (ts : List Task) : Prop :=
  ∀ s, scope.unmet s < n → w s = (a, scope.run s ts)

namespace Performs

/-! ## Composition -/

theorem pure (a : α) : scope.Performs n (Pure.pure a) a [] := fun s _ => by
  rw [run_nil]
  rfl

theorem bind {w : Walk α} {k : α → Walk β} {a : α} {b : β} {ts us : List Task}
    (hw : scope.Performs n w a ts) (hk : scope.Performs n (k a) b us) :
    scope.Performs n (w >>= k) b (ts ++ us) := fun s hs => by
  have hrest := hk (scope.run s ts) (Nat.lt_of_le_of_lt (scope.unmet_run_le s ts) hs)
  show k (w s).1 (w s).2 = _
  rw [hw s hs, hrest, run_append]

theorem map (f : α → β) {w : Walk α} {a : α} {ts : List Task} (hw : scope.Performs n w a ts) :
    scope.Performs n (f <$> w) (f a) ts := fun s hs => by
  show (f (w s).1, (w s).2) = _
  rw [hw s hs]

theorem bind_pure (f : α → β) {w : Walk α} {a : α} {ts : List Task}
    (hw : scope.Performs n w a ts) : scope.Performs n (w >>= fun a => Pure.pure (f a)) (f a) ts :=
  hw.map f

theorem discard {w : Walk α} {a : α} {ts : List Task} (hw : scope.Performs n w a ts) :
    scope.Performs n (Functor.discard w) () ts :=
  hw.map fun _ => ()

theorem note (d : Diagnostic) : scope.Performs n (modify (·.note d)) ⟨⟩ [.note d] := fun s _ => by
  rw [run_singleton, advance, run_nil]
  rfl

theorem offer (path : String) (m : Model) :
    scope.Performs n (modify fun s => Scope.offer s path m) ⟨⟩ [.offer path m] := fun s _ => by
  rw [run_singleton, advance, run_nil]
  rfl

theorem mapM {f : α → Walk β} {g : α → β} {ts : α → List Task} {l : List α}
    (h : ∀ a ∈ l, scope.Performs n (f a) (g a) (ts a)) :
    scope.Performs n (l.mapM f) (l.map g) (l.flatMap ts) := by
  induction l with
  | nil => exact pure []
  | cons a l ih =>
    have hl := ih fun b hb => h b (List.mem_cons_of_mem _ hb)
    rw [List.mapM_cons, List.map_cons, List.flatMap_cons, ← List.append_nil (l.flatMap ts)]
    exact (h a List.mem_cons_self).bind (hl.bind (pure _))

theorem forM {f : α → Walk PUnit} {ts : α → List Task} {l : List α}
    (h : ∀ a ∈ l, scope.Performs n (f a) ⟨⟩ (ts a)) :
    scope.Performs n (l.forM f) ⟨⟩ (l.flatMap ts) := by
  induction l with
  | nil => exact pure PUnit.unit
  | cons a l ih =>
    exact (h a List.mem_cons_self).bind (ih fun b hb => h b (List.mem_cons_of_mem _ hb))

end Performs

/-- Following a reference, as the walks inside do it, gives its type and performs the one task to follow
it. -/
def Follows (scope : Scope) (n : Nat) (follow : String → Walk TypeExpr) : Prop :=
  ∀ r, scope.Performs n (follow r) (scope.document.referenceType r) [.follow r]

variable {follow : String → Walk TypeExpr}

/-- **A walk that asks for references performs the tasks to follow them.** -/
theorem performs_of_asks (hfollow : scope.Follows n follow) {w : (String → Walk TypeExpr) → Walk α} {a : α}
    {rs : List String} (h : Asks scope.document.referenceType w a rs) :
    scope.Performs n (w follow) a (followAll rs) := by
  induction h with
  | done a => exact .pure a
  | ask r _ ih => exact (hfollow r).bind ih

/-! ## Schemas -/

theorem performs_walkItems (hfollow : scope.Follows n follow) (schema : Schema) :
    scope.Performs n (walkItems follow schema) (scope.document.itemsType schema)
      (followAll (itemsReferences schema)) :=
  performs_of_asks hfollow (asks_walkItems scope.document schema)

theorem performs_walkObject (hfollow : scope.Follows n follow) (schema : Schema) :
    scope.Performs n (walkObject follow schema) (scope.document.objectType? schema)
      (followAll (objectReferences schema)) :=
  performs_of_asks hfollow (asks_walkObject scope.document schema)

theorem performs_walkSchema (hfollow : scope.Follows n follow) (schema : Schema) :
    scope.Performs n (walkSchema follow schema) (scope.document.schemaType? schema)
      (followAll (schemaReferences schema)) :=
  performs_of_asks hfollow (asks_walkSchema scope.document schema)

/-! ## Definitions -/

theorem performs_walkModel (hfollow : scope.Follows n follow) (key : String) (definition : Schema) :
    scope.Performs n (scope.walkModel follow key definition) (scope.model key definition)
      (followAll (memberReferences key definition)) :=
  performs_of_asks hfollow (scope.asks_walkModel key definition)

/-- What the walk through a definition does once its properties have been walked is what finishing it
does, as the definition is the innermost one then. -/
theorem finish_eq_leave {s t : Progress} {key : String} {definition : Schema}
    (hdef : scope.document.definitions.get? key = some definition) (hmet : s.met key = false)
    (ht : t.inProgress = (s.enter key).inProgress) :
    scope.finish t key =
      if Builtin.isName (modelName key) then t.leave key
      else (t.leave key).register (scope.model key definition) := by
  have hleave : { t with inProgress := t.inProgress.erase key, resolved := key :: t.resolved } =
      t.leave key := by
    have hend := scope.inProgress_finish_of_enter hmet ht
    rw [inProgress_finish] at hend
    rw [Progress.leave, hend, ht, Progress.enter, List.dropLast_concat]
  simp only [finish, hleave, hdef]

theorem walkDefinition_apply (hfollow : scope.Follows n follow) {s : Progress} {key : String}
    {definition : Schema} (hdef : scope.document.definitions.get? key = some definition)
    (hmet : s.met key = false) (hs : scope.unmet (s.enter key) < n) :
    scope.walkDefinition follow key definition s =
      ((), scope.run (s.enter key) (scope.brings key definition)) := by
  have hmodel := performs_walkModel hfollow key definition (s.enter key) hs
  have hstack := scope.inProgress_run_followAll (s.enter key) (memberReferences key definition)
  have hargs := Performs.forM (l := scope.document.argumentKeys key)
    fun name _ => (hfollow (definitionsHead ++ name)).discard
  rw [← followAll_map] at hargs
  have hend : scope.unmet (scope.finish (scope.run (s.enter key)
      (followAll (memberReferences key definition))) key) < n :=
    Nat.lt_of_le_of_lt (scope.unmet_le fun _ h => met_finish _ _ _ _ (scope.met_run h _)) hs
  rw [run_brings, ← (Prod.mk.inj (hargs _ hend)).2, finish_eq_leave hdef hmet hstack]
  have hname : (scope.model key definition).name = modelName key := rfl
  simp only [walkDefinition, Walk.bind_apply, Walk.modify_apply, hmodel, hname]
  cases Builtin.isName (modelName key) <;> rfl

theorem performs_walkReference (hfollow : scope.Follows n follow) (r : String) :
    scope.Performs (n + 1) (scope.walkReference follow r) (scope.document.referenceType r)
      [.follow r] := by
  intro s hs
  rw [run_singleton]
  unfold walkReference Document.referenceType
  rcases scope.advance_follow_cases s r with ⟨hdef, hadv⟩ | ⟨definition, hdef, hmet, hadv⟩ |
    ⟨definition, hdef, hmet, hadv⟩ <;> simp only [hdef, hadv]
  · rw [run_nil]
    rfl
  · rw [run_nil]
    simp only [Walk.bind_apply, Walk.get_apply, hmet, if_true]
    rfl
  · have henter : scope.unmet (s.enter (refKey r)) < n :=
      Nat.lt_of_lt_of_le (scope.unmet_enter_lt hdef hmet) (Nat.le_of_lt_succ hs)
    simp only [Walk.bind_apply, Walk.get_apply, hmet, Bool.false_eq_true, if_false,
      walkDefinition_apply hfollow hdef hmet henter]
    rfl

/-! ## Following references -/

/-- A walk that may open as many definitions as are still to be met does not run into its bound. -/
theorem follows_followWithin (scope : Scope) :
    ∀ n, scope.Follows n (scope.followWithin n)
  | 0 => fun _ _ hs => absurd hs (Nat.not_lt_zero _)
  | n + 1 => performs_walkReference (follows_followWithin scope n)

/-- **The walk along a reference and the run through the task to follow it are the same.** -/
theorem follows_follow (scope : Scope) (n : Nat) : scope.Follows n scope.follow := fun r s _ =>
  follows_followWithin scope (scope.unmet s + 1) r s (Nat.lt_succ_self _)

theorem follow_apply (scope : Scope) (r : String) (s : Progress) :
    scope.follow r s = (scope.document.referenceType r, scope.run s [.follow r]) :=
  follows_follow scope (scope.unmet s + 1) r s (Nat.lt_succ_self _)

/-- **Following a reference, by means of itself.**  The count of definitions in `Scope.follow` is never
felt: a reference inside a definition is followed as one outside. -/
theorem follow_eq (scope : Scope) (r : String) :
    scope.follow r = scope.walkReference scope.follow r := by
  funext s
  rw [performs_walkReference (follows_follow scope (scope.unmet s)) r s (Nat.lt_succ_self _),
    follow_apply]

/-! ## Reference by reference -/

theorem followEach_apply (scope : Scope) (rs : List String) (s : Progress) :
    followEach scope.follow rs s = ((), scope.run s (followAll rs)) := by
  have h := Performs.forM (l := rs) fun r _ => (follows_follow scope (scope.unmet s + 1) r).discard
  have htasks : followAll rs = rs.flatMap fun r => [.follow r] := by rw [← followAll_map, List.map_id']
  rw [htasks]
  exact h s (Nat.lt_succ_self _)

theorem walkMembers_apply {s : Progress} {key : String} {definition : Schema}
    (hdef : scope.document.definitions.get? key = some definition) (hmet : s.met key = false) :
    scope.walkMembers scope.follow key definition s =
      ((), scope.finish (scope.run (s.enter key) (followAll (memberReferences key definition))) key) := by
  rw [finish_eq_leave hdef hmet (scope.inProgress_run_followAll _ _)]
  simp only [walkMembers, Walk.bind_apply, Walk.modify_apply, followEach_apply]
  cases Builtin.isName (modelName key) <;> rfl

end Scope

/-! ## Lookups -/

theorem Lookup.performs_walk {scope : Scope} {n : Nat} : ∀ l : Lookup,
    scope.Performs n (l.walk scope) (l.type? scope.document) (followAll l.references)
  | reference target => (scope.follows_follow n target).map some
  | items s => (Scope.performs_walkItems (scope.follows_follow n) s).map some
  | object s => Scope.performs_walkObject (scope.follows_follow n) s
  | schema s => Scope.performs_walkSchema (scope.follows_follow n) s

end ApiOutline
