import ApiOutline.Proofs.Resolution.Run
import Mathlib.Data.List.Nodup
import Mathlib.Data.List.Perm.Subperm

/-!
# The moments of a run

A run passes through moments: a state, and the tasks that are still to do.  What holds at the first moment
and is kept from each moment to the next holds all along, and at the end.

* `Moment`, `Scope.moment`: the moments.
* `Scope.exists_moment_eq`: the moments come to an end, and the end is what the run gives.
* `Scope.exists_moment_eq_of_append`: the tasks that come first are done at a later moment.
* `Scope.Kept`: what a task keeps, and with it a run.
* `Orderly`: the definitions in progress are different ones of the document, none of them is finished,
  and the tasks finish them innermost first.
* `Scope.opens?`: the definition whose properties are walked from a moment on.
-/

namespace ApiOutline

/-- A moment of a run: the state, and the tasks still to do. -/
structure Moment where
  state : Progress
  tasks : List Task

namespace Scope

variable (scope : Scope)

/-- The moment after the next task. -/
def next : Moment → Moment
  | ⟨s, []⟩ => ⟨s, []⟩
  | ⟨s, t :: ts⟩ => ⟨(scope.advance s t).1, (scope.advance s t).2 ++ ts⟩

/-- The moment after `n` tasks. -/
def moment (first : Moment) : Nat → Moment
  | 0 => first
  | n + 1 => scope.next (moment first n)

/-! ## The end -/

theorem moment_add (first : Moment) (m n : Nat) :
    scope.moment first (m + n) = scope.moment (scope.moment first m) n := by
  induction n with
  | zero => rfl
  | succ n ih => rw [← Nat.add_assoc, moment, ih, moment]

theorem moment_succ' (first : Moment) (n : Nat) :
    scope.moment first (n + 1) = scope.moment (scope.next first) n := by
  rw [Nat.add_comm, moment_add]
  rfl

/-- **A run comes to its end.**  The first tasks, and those that they bring, are done after no more moments
than there are first tasks, together with those that the definitions not met yet can bring. -/
theorem exists_moment_eq (s : Progress) (ts us : List Task) :
    ∃ n ≤ scope.owed s + ts.length, scope.moment ⟨s, ts ++ us⟩ n = ⟨scope.run s ts, us⟩ := by
  induction s, ts using Scope.run.induct scope with
  | case1 s => exact ⟨0, Nat.zero_le _, by rw [run_nil, moment, List.nil_append]⟩
  | case2 s t ts ih =>
    obtain ⟨n, hn, hend⟩ := ih
    have hpay := scope.owed_advance s t
    refine ⟨n + 1, ?_, ?_⟩
    · simp only [List.length_append, List.length_cons] at hn ⊢
      omega
    · rw [moment_succ', List.cons_append, next, ← List.append_assoc, hend, run_cons]

theorem exists_moment_eq_end (s : Progress) (ts : List Task) :
    ∃ n ≤ scope.owed s + ts.length, scope.moment ⟨s, ts⟩ n = ⟨scope.run s ts, []⟩ := by
  have h := scope.exists_moment_eq s ts []
  rwa [List.append_nil] at h

/-- The tasks that come first at a moment are done at a later one, and the others are left. -/
theorem exists_moment_eq_of_append {first : Moment} {n : Nat} {s : Progress} {ts us : List Task}
    (h : scope.moment first n = ⟨s, ts ++ us⟩) : ∃ m ≥ n, scope.moment first m = ⟨scope.run s ts, us⟩ := by
  obtain ⟨k, -, hend⟩ := scope.exists_moment_eq s ts us
  exact ⟨n + k, Nat.le_add_right n k, by rw [moment_add, h, hend]⟩

/-- From each of its moments on, a run goes on to the same end. -/
theorem run_moment (first : Moment) (n : Nat) :
    scope.run (scope.moment first n).state (scope.moment first n).tasks =
      scope.run first.state first.tasks := by
  induction n with
  | zero => rfl
  | succ n ih =>
    rw [← ih, moment]
    obtain ⟨s, ts⟩ := scope.moment first n
    cases ts with
    | nil => rfl
    | cons t ts => rw [next, run_cons]

/-! ## What is kept -/

/-- What holds after a task if it held before. -/
def Kept (P : Moment → Prop) : Prop :=
  ∀ s t ts, P ⟨s, t :: ts⟩ → P ⟨(scope.advance s t).1, (scope.advance s t).2 ++ ts⟩

variable {scope}

theorem Kept.next {P : Moment → Prop} (h : scope.Kept P) {m : Moment} (hm : P m) :
    P (scope.next m) := by
  obtain ⟨s, ts⟩ := m
  cases ts with
  | nil => exact hm
  | cons t ts => exact h s t ts hm

/-- What every task keeps as long as something holds that every task keeps. -/
theorem Kept.and {P Q : Moment → Prop} (hP : scope.Kept P)
    (hQ : ∀ {s t ts}, P ⟨s, t :: ts⟩ → Q ⟨s, t :: ts⟩ →
      Q ⟨(scope.advance s t).1, (scope.advance s t).2 ++ ts⟩) :
    scope.Kept fun m => P m ∧ Q m := fun s t ts h =>
  ⟨hP s t ts h.1, hQ h.1 h.2⟩

/-- What every task keeps holds at every moment. -/
theorem Kept.moment {P : Moment → Prop} (h : scope.Kept P) {first : Moment} (hfirst : P first) :
    ∀ n, P (scope.moment first n)
  | 0 => hfirst
  | n + 1 => h.next (Kept.moment h hfirst n)

/-- What every task keeps holds at the end. -/
theorem Kept.run {P : Moment → Prop} (h : scope.Kept P) {s : Progress} {ts : List Task}
    (hfirst : P ⟨s, ts⟩) : P ⟨scope.run s ts, []⟩ := by
  obtain ⟨n, -, hend⟩ := scope.exists_moment_eq_end s ts
  rw [← hend]
  exact h.moment hfirst n

end Scope

/-! ## Order among the definitions in progress -/

namespace Progress

theorem met_start (key : String) : ¬ start.met key = true := by
  simp [met, start]

@[simp] theorem inProgress_enter (s : Progress) (key : String) :
    (s.enter key).inProgress = s.inProgress ++ [key] := rfl

end Progress

namespace Scope

@[simp] theorem inProgress_offer (s : Progress) (path : String) (m : Model) :
    (offer s path m).inProgress = s.inProgress := by
  unfold offer
  split
  · split <;> rfl
  · rfl

@[simp] theorem resolved_offer (s : Progress) (path : String) (m : Model) :
    (offer s path m).resolved = s.resolved := by
  unfold offer
  split
  · split <;> rfl
  · rfl

end Scope

/-- The definition that a task finishes. -/
def Task.finishes? : Task → Option String
  | finish key => some key
  | _ => none

@[simp] theorem finishes?_followAll (rs : List String) :
    (followAll rs).filterMap Task.finishes? = [] := by
  induction rs with
  | nil => rfl
  | cons r rs ih => exact ih

/-- The definitions in progress are different ones of the document, none of them is finished, and the
tasks finish them innermost first. -/
structure Orderly (d : Document) (m : Moment) : Prop where
  nodup : m.state.inProgress.Nodup
  known : ∀ key ∈ m.state.inProgress, key ∈ d.definitions.keys
  apart : ∀ key ∈ m.state.inProgress, key ∉ m.state.resolved
  finishes : m.tasks.filterMap Task.finishes? = m.state.inProgress.reverse

namespace Orderly

variable {scope : Scope} {s : Progress} {ts : List Task}

/-- Order depends on the definitions in progress, on the finished ones and on the tasks that finish. -/
theorem congr {d : Document} {m m' : Moment} (h : Orderly d m)
    (hstack : m'.state.inProgress = m.state.inProgress)
    (hresolved : m'.state.resolved = m.state.resolved)
    (htasks : m'.tasks.filterMap Task.finishes? = m.tasks.filterMap Task.finishes?) :
    Orderly d m' where
  nodup := hstack ▸ h.nodup
  known := hstack ▸ h.known
  apart := by rw [hstack, hresolved]; exact h.apart
  finishes := by rw [htasks, hstack]; exact h.finishes

theorem enter {r : String} {definition : Schema}
    (h : Orderly scope.document ⟨s, .follow r :: ts⟩)
    (hdef : scope.document.definition? r = some definition) (hmet : s.met (refKey r) = false) :
    Orderly scope.document ⟨s.enter (refKey r), scope.brings (refKey r) definition ++ ts⟩ := by
  have hnew : ¬ (refKey r ∈ s.resolved ∨ refKey r ∈ s.inProgress) := fun hmem => by
    rw [Progress.met_eq_true_iff.mpr hmem] at hmet
    exact absurd hmet (by simp)
  have hfinishes : ts.filterMap Task.finishes? = s.inProgress.reverse := h.finishes
  constructor
  · show (s.inProgress ++ [refKey r]).Nodup
    rw [← List.concat_eq_append]
    exact h.nodup.concat fun hmem => hnew (Or.inr hmem)
  · intro key hkey
    rcases List.mem_append.mp hkey with hkey | hkey
    · exact h.known key hkey
    · rw [List.mem_singleton.mp hkey]
      exact Scope.mem_keys_of_definition? hdef
  · intro key hkey
    rcases List.mem_append.mp hkey with hkey | hkey
    · exact h.apart key hkey
    · rw [List.mem_singleton.mp hkey]
      exact fun hmem => hnew (Or.inl hmem)
  · simp [Scope.brings, Task.finishes?, hfinishes]

/-- The task that finishes a definition comes when it is the innermost one. -/
theorem inProgress_eq_of_finish {d : Document} {key : String}
    (h : Orderly d ⟨s, .finish key :: ts⟩) :
    ∃ outer, s.inProgress = outer ++ [key] ∧ key ∉ outer ∧
      ts.filterMap Task.finishes? = outer.reverse := by
  have hfinishes : key :: ts.filterMap Task.finishes? = s.inProgress.reverse := h.finishes
  refine ⟨(ts.filterMap Task.finishes?).reverse, ?_, ?_, List.reverse_reverse _ |>.symm⟩
  · rw [← List.reverse_inj, ← hfinishes, List.reverse_append]
    simp
  · have hnodup := List.nodup_reverse.mpr h.nodup
    rw [show (Moment.mk s (.finish key :: ts)).state.inProgress.reverse = _ from hfinishes.symm,
      List.nodup_cons] at hnodup
    exact fun hmem => hnodup.1 (List.mem_reverse.mp hmem)

theorem met_of_finish {d : Document} {key : String} (h : Orderly d ⟨s, .finish key :: ts⟩) :
    s.met key = true := by
  obtain ⟨outer, hstack, -, -⟩ := h.inProgress_eq_of_finish
  rw [Progress.met_eq_true_iff, hstack]
  exact Or.inr (List.mem_append_right _ List.mem_cons_self)

theorem finish {key : String} (h : Orderly scope.document ⟨s, .finish key :: ts⟩) :
    Orderly scope.document ⟨scope.finish s key, ts⟩ := by
  obtain ⟨outer, hstack, hkey, hfinishes⟩ := h.inProgress_eq_of_finish
  have hsub : ∀ k ∈ outer, k ∈ s.inProgress := fun k hk => by
    rw [hstack]
    exact List.mem_append_left _ hk
  have houter : (scope.finish s key).inProgress = outer := by
    rw [Scope.inProgress_finish, hstack, List.erase_append_right _ hkey]
    simp
  refine ⟨?_, ?_, ?_, ?_⟩ <;> simp only [houter]
  · have hnodup := h.nodup
    simp only [hstack] at hnodup
    exact hnodup.of_append_left
  · exact fun k hk => h.known k (hsub k hk)
  · intro k hk hmem
    rw [Scope.resolved_finish] at hmem
    rcases List.mem_cons.mp hmem with rfl | hmem
    · exact hkey hk
    · exact h.apart k (hsub k hk) hmem
  · exact hfinishes

/-- **Every task keeps the order.** -/
theorem kept (scope : Scope) : scope.Kept (Orderly scope.document) := by
  intro s t ts h
  cases t with
  | follow r =>
    rcases scope.advance_follow_cases s r with ⟨-, hadv⟩ | ⟨_, -, -, hadv⟩ |
      ⟨definition, hdef, hmet, hadv⟩ <;> rw [hadv]
    · exact h.congr rfl rfl rfl
    · exact h.congr rfl rfl rfl
    · exact h.enter hdef hmet
  | finish key => exact h.finish
  | note d => exact h.congr rfl rfl rfl
  | offer path m =>
    exact h.congr (Scope.inProgress_offer s path m) (Scope.resolved_offer s path m) rfl

theorem start (d : Document) {ts : List Task} (h : ts.filterMap Task.finishes? = []) :
    Orderly d ⟨.start, ts⟩ where
  nodup := List.nodup_nil
  known := fun _ hkey => absurd hkey List.not_mem_nil
  apart := fun _ hkey => absurd hkey List.not_mem_nil
  finishes := h

/-- No more definitions are in progress than there are. -/
theorem depth_le {d : Document} {m : Moment} (h : Orderly d m) :
    m.state.depth ≤ d.definitions.keys.length :=
  (List.subperm_of_subset h.nodup h.known).length_le

end Orderly

/-! ## Opening definitions -/

namespace Scope

/-- The definition whose properties are walked from a moment on: the next task follows a reference to it,
and it has not been met. -/
def opens? (scope : Scope) : Moment → Option String
  | ⟨s, .follow r :: _⟩ =>
    if (scope.document.definition? r).isSome && !s.met (refKey r) then some (refKey r) else none
  | _ => none

variable {scope : Scope}

/-- The moment after a definition is opened: it is in progress, and the tasks that it brings come first. -/
theorem next_of_opens? {m : Moment} {key : String} (h : scope.opens? m = some key) :
    ∃ definition ts, scope.document.definitions.get? key = some definition ∧
      m.state.met key = false ∧
      scope.next m = ⟨m.state.enter key, scope.brings key definition ++ ts⟩ := by
  obtain ⟨s, ts⟩ := m
  unfold opens? at h
  split at h
  · next s r ts hm =>
    obtain ⟨rfl, rfl⟩ := Moment.mk.inj hm
    rcases scope.advance_follow_cases s r with ⟨hdef, -⟩ | ⟨_, hdef, hmet, -⟩ |
      ⟨definition, hdef, hmet, hadv⟩
    · simp [hdef] at h
    · simp [hdef, hmet] at h
    · obtain rfl : refKey r = key := by simpa [hdef, hmet] using h
      exact ⟨definition, ts, hdef, hmet, by rw [next, hadv]⟩
  · exact absurd h (by simp)

/-- A moment that opens no definition does a task that brings no further ones. -/
theorem tasks_next_of_opens?_eq_none {m : Moment} (h : scope.opens? m = none) :
    (scope.next m).tasks = m.tasks.tail := by
  obtain ⟨s, ts⟩ := m
  cases ts with
  | nil => rfl
  | cons t ts =>
    show (scope.advance s t).2 ++ ts = ts
    cases t with
    | follow r =>
      rcases scope.advance_follow_cases s r with ⟨-, hadv⟩ | ⟨_, -, -, hadv⟩ |
        ⟨definition, hdef, hmet, -⟩
      · rw [hadv, List.nil_append]
      · rw [hadv, List.nil_append]
      · simp [opens?, hdef, hmet] at h
    | finish key => rfl
    | note d => rfl
    | offer path m => rfl

theorem met_next {m : Moment} {key : String} (h : m.state.met key = true) :
    (scope.next m).state.met key = true := by
  obtain ⟨s, ts⟩ := m
  cases ts with
  | nil => exact h
  | cons t ts => exact scope.met_advance h t

theorem met_moment {first : Moment} {key : String} {i j : Nat} (hij : i ≤ j)
    (h : (scope.moment first i).state.met key = true) :
    (scope.moment first j).state.met key = true := by
  induction hij with
  | refl => exact h
  | step _ ih => exact met_next ih

/-- **A definition is opened once at most.**  From the moment after on it has been met. -/
theorem opens?_unique {first : Moment} {key : String} {i j : Nat}
    (hi : scope.opens? (scope.moment first i) = some key)
    (hj : scope.opens? (scope.moment first j) = some key) : i = j := by
  have hlt : ∀ {i j : Nat}, i < j → scope.opens? (scope.moment first i) = some key →
      scope.opens? (scope.moment first j) ≠ some key := by
    intro i j hij hi hj
    obtain ⟨_, _, -, -, hnext⟩ := next_of_opens? hi
    obtain ⟨_, _, -, hmet, -⟩ := next_of_opens? hj
    have hmeti : (scope.moment first (i + 1)).state.met key = true := by
      rw [moment, hnext]
      exact Progress.met_enter_self _ key
    rw [met_moment hij hmeti] at hmet
    exact absurd hmet (by simp)
  rcases Nat.lt_trichotomy i j with h | h | h
  · exact absurd hj (hlt h hi)
  · exact h
  · exact absurd hi (hlt h hj)

end Scope

end ApiOutline
