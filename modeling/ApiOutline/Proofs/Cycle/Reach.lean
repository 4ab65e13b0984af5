import ApiOutline.Cycle.Reach
import Mathlib.Logic.Relation

/-!
# The search finds what can be reached

The search of a graph keeps the nodes that it has seen and a list of nodes to look at.  Whatever it sees can be
reached, as it looks only at what it has been given and at what seen nodes point to.  And it misses nothing: a target
of a node that has been seen has been seen, too, or is still to be looked at, and at the end there is nothing to look
at.

* `forall_mem_reach`: what holds of all that the search sees.
* `Explored`: the targets of what has been seen, as an invariant of the search.
* `mem_reachable_iff`: the search from a node finds what can be reached from it by a step or more.
-/

namespace ApiOutline.Cycle

variable {nodes : List String} {targets : String → List String} {seen pending : List String} {n m : String}

/-! ## One step of the search -/

theorem reach_nil : reach nodes targets seen [] = seen := by
  rw [reach]

/-- A node that is new is seen, and its targets are to be looked at. -/
theorem reach_cons_of_new (hn : n ∈ nodes) (hseen : seen.contains n = false) :
    reach nodes targets seen (n :: pending) = reach nodes targets (n :: seen) (targets n ++ pending) := by
  rw [reach, dif_pos ⟨hn, hseen⟩]

/-- Other nodes are passed by. -/
theorem reach_cons_of_not_new (h : ¬ (n ∈ nodes ∧ seen.contains n = false)) :
    reach nodes targets seen (n :: pending) = reach nodes targets seen pending := by
  rw [reach, dif_neg h]

/-! ## What is found can be reached -/

/-- What holds of the nodes to start with, and of the targets of the nodes of which it holds, holds of all that the
search sees. -/
theorem forall_mem_reach {P : String → Prop} (hstep : ∀ n m, P n → m ∈ targets n → P m)
    (hseen : ∀ m ∈ seen, P m) (hpending : ∀ m ∈ pending, P m) : ∀ m ∈ reach nodes targets seen pending, P m := by
  induction seen, pending using reach.induct nodes targets with
  | case1 seen =>
    rw [reach_nil]
    exact hseen
  | case2 seen n pending hnew ih =>
    have hn : P n := hpending n List.mem_cons_self
    have hrest : ∀ m ∈ pending, P m := fun m hm => hpending m (List.mem_cons_of_mem _ hm)
    rw [reach_cons_of_new hnew.1 hnew.2]
    refine ih (List.forall_mem_cons.mpr ⟨hn, hseen⟩) fun m hm => ?_
    rcases List.mem_append.mp hm with hm | hm
    · exact hstep n m hn hm
    · exact hrest m hm
  | case3 seen n pending hold ih =>
    rw [reach_cons_of_not_new hold]
    exact ih hseen fun m hm => hpending m (List.mem_cons_of_mem _ hm)

/-! ## What can be reached is found -/

/-- The targets of the nodes that have been seen have been seen, or are still to be looked at.  Only nodes of the graph
count. -/
def Explored (nodes : List String) (targets : String → List String) (seen pending : List String) : Prop :=
  ∀ n ∈ seen, ∀ m ∈ targets n, m ∈ nodes → m ∈ seen ∨ m ∈ pending

theorem Explored.cons_of_new (h : Explored nodes targets seen (n :: pending)) :
    Explored nodes targets (n :: seen) (targets n ++ pending) := by
  intro k hk m hm hnode
  rcases List.mem_cons.mp hk with rfl | hk
  · exact Or.inr (List.mem_append_left _ hm)
  rcases h k hk m hm hnode with hseen | hpending
  · exact Or.inl (List.mem_cons_of_mem _ hseen)
  rcases List.mem_cons.mp hpending with rfl | hpending
  · exact Or.inl List.mem_cons_self
  · exact Or.inr (List.mem_append_right _ hpending)

/-- A node that is passed by has been seen, or is none of the graph. -/
theorem Explored.cons_of_not_new (hold : ¬ (n ∈ nodes ∧ seen.contains n = false))
    (h : Explored nodes targets seen (n :: pending)) : Explored nodes targets seen pending := by
  intro k hk m hm hnode
  rcases h k hk m hm hnode with hseen | hpending
  · exact Or.inl hseen
  rcases List.mem_cons.mp hpending with rfl | hpending
  · refine Or.inl (Decidable.not_not.mp fun hunseen => hold ⟨hnode, ?_⟩)
    simpa using hunseen
  · exact Or.inr hpending

/-- At the end of the search there is nothing to look at. -/
theorem explored_reach (h : Explored nodes targets seen pending) :
    Explored nodes targets (reach nodes targets seen pending) [] := by
  induction seen, pending using reach.induct nodes targets with
  | case1 seen =>
    rw [reach_nil]
    exact h
  | case2 seen n pending hnew ih =>
    rw [reach_cons_of_new hnew.1 hnew.2]
    exact ih h.cons_of_new
  | case3 seen n pending hold ih =>
    rw [reach_cons_of_not_new hold]
    exact ih (h.cons_of_not_new hold)

/-- What has been seen stays seen. -/
theorem mem_reach_of_mem_seen (h : m ∈ seen) (pending : List String) : m ∈ reach nodes targets seen pending := by
  induction seen, pending using reach.induct nodes targets with
  | case1 seen =>
    rw [reach_nil]
    exact h
  | case2 seen n pending hnew ih =>
    rw [reach_cons_of_new hnew.1 hnew.2]
    exact ih (List.mem_cons_of_mem _ h)
  | case3 seen n pending hold ih =>
    rw [reach_cons_of_not_new hold]
    exact ih h

/-- A node that is to be looked at is seen. -/
theorem mem_reach_of_mem_pending (hnode : m ∈ nodes) (h : m ∈ pending) : m ∈ reach nodes targets seen pending := by
  induction seen, pending using reach.induct nodes targets with
  | case1 seen => exact absurd h List.not_mem_nil
  | case2 seen n pending hnew ih =>
    rw [reach_cons_of_new hnew.1 hnew.2]
    rcases List.mem_cons.mp h with rfl | h
    · exact mem_reach_of_mem_seen List.mem_cons_self _
    · exact ih (List.mem_append_right _ h)
  | case3 seen n pending hold ih =>
    rw [reach_cons_of_not_new hold]
    rcases List.mem_cons.mp h with rfl | h
    · refine mem_reach_of_mem_seen (Decidable.not_not.mp fun hunseen => hold ⟨hnode, ?_⟩) _
      simpa using hunseen
    · exact ih h

/-! ## The search from a node -/

/-- **The search finds what can be reached.**  In a graph whose nodes point to nodes, the search from a node finds
exactly what can be reached from it by a step or more. -/
theorem mem_reachable_iff (hnodes : ∀ n, ∀ m ∈ targets n, m ∈ nodes) :
    m ∈ reachable nodes targets n ↔ Relation.TransGen (fun a b => b ∈ targets a) n m := by
  constructor
  · intro h
    refine forall_mem_reach (P := fun m => Relation.TransGen (fun a b => b ∈ targets a) n m)
      (fun _ _ hreached hstep => hreached.tail hstep) ?_ (fun _ hstep => .single hstep) m h
    exact fun _ hm => absurd hm List.not_mem_nil
  · intro h
    have hexplored : Explored nodes targets (reachable nodes targets n) [] :=
      explored_reach fun _ hk => absurd hk List.not_mem_nil
    induction h with
    | single hstep => exact mem_reach_of_mem_pending (hnodes _ _ hstep) hstep
    | tail _ hstep ih => exact (hexplored _ ih _ hstep (hnodes _ _ hstep)).resolve_right List.not_mem_nil

end ApiOutline.Cycle
