/-!
# Reachability in finite graphs

A graph is given by its nodes and, for each node, the list of nodes it points to.  What can be reached
from a list of nodes is collected by a search that keeps a list of nodes still to be looked at; each
node is looked at once.

* `reach`: the nodes reached from a list of nodes, these included.
* `reachable`: the nodes reached from one node by one step or more.
-/

namespace ApiOutline.Cycle

/-- The nodes of the graph that have not been seen. -/
def unseen (nodes seen : List String) : List String :=
  nodes.filter fun n => !seen.contains n

theorem length_unseen_cons_lt {nodes seen : List String} {n : String} (hn : n ∈ nodes)
    (hs : seen.contains n = false) : (unseen nodes (n :: seen)).length < (unseen nodes seen).length := by
  induction nodes with
  | nil => simp at hn
  | cons m rest ih =>
    have hle : ∀ l : List String, (unseen l (n :: seen)).length ≤ (unseen l seen).length := by
      intro l
      induction l with
      | nil => simp [unseen]
      | cons k l ihl =>
        simp only [unseen, List.filter_cons, List.contains_cons] at ihl ⊢
        by_cases hk : k = n
        · subst hk
          simp only [beq_self_eq_true, Bool.true_or, Bool.not_true, hs, Bool.not_false]
          exact Nat.le_succ_of_le ihl
        · rw [beq_false_of_ne hk, Bool.false_or]
          split
          · exact Nat.succ_le_succ ihl
          · exact ihl
    by_cases hm : m = n
    · subst hm
      have := hle rest
      simp only [unseen, List.filter_cons, List.contains_cons, beq_self_eq_true, Bool.true_or,
        Bool.not_true, hs, Bool.not_false] at this ⊢
      exact Nat.lt_succ_of_le this
    · have := ih ((List.mem_cons.mp hn).resolve_left fun e => hm e.symm)
      simp only [unseen, List.filter_cons, List.contains_cons, beq_false_of_ne hm,
        Bool.false_or] at this ⊢
      split
      · exact Nat.succ_lt_succ this
      · exact this

/-- The nodes reached from `pending` in a graph, besides those already `seen`. -/
def reach (nodes : List String) (targets : String → List String) (seen : List String) :
    List String → List String
  | [] => seen
  | n :: pending =>
    if _h : n ∈ nodes ∧ seen.contains n = false then
      reach nodes targets (n :: seen) (targets n ++ pending)
    else
      reach nodes targets seen pending
termination_by pending => ((unseen nodes seen).length, pending.length)
decreasing_by
  · exact Prod.Lex.left _ _ (length_unseen_cons_lt _h.1 _h.2)
  · exact Prod.Lex.right _ (Nat.lt_succ_self _)

/-- The nodes reached from `n` by one step or more. -/
def reachable (nodes : List String) (targets : String → List String) (n : String) : List String :=
  reach nodes targets [] (targets n)

end ApiOutline.Cycle
