import ApiOutline.Proofs.Resolution.Reachable
import Mathlib.Data.List.Perm.Lattice

/-!
# The account of a run

A reference that names no definition is recorded when it is followed: under the definition that is being
walked, or under itself outside of any.  A definition is walked once, however many references lead to it, so its
own references are recorded once.

This is an account that balances at every moment.  What has been recorded, together with what the tasks still to
do are going to record, is what there was to record at first, together with what the definitions met since then
have in themselves.  Following a reference to a definition for the first time adds to both sides alike.  Losses of
names are left out of the account, as they depend on what is registered already.

* `Document.missingNotes`: what is recorded of references.
* `Document.pendingNotes`: what is recorded of tasks.
* `Scope.Balanced`: the account, as an invariant of the moments.
* `Scope.diagnostics_run_perm`: the account at the end of a run.
-/

namespace ApiOutline

/-- Whether the diagnostic records the loss of a name. -/
def Diagnostic.isCollision (x : Diagnostic) : Bool :=
  x.code == .nameCollision

/-- The definition that is being walked when there are these tasks to do: the one they finish first. -/
def walked? (ts : List Task) : Option String :=
  (ts.filterMap Task.finishes?).head?

namespace Document

variable (d : Document)

/-! ## What is recorded -/

/-- What is recorded of references: each that names no definition, under the definition that is being walked or
under itself. -/
def missingNotes (walked : Option String) (references : List String) : List Diagnostic :=
  (references.filter fun r => (d.definition? r).isNone).map fun r =>
    .unresolvedReference (walked.getD r) r

/-- What is recorded of a definition: the references of its properties that name none. -/
def definitionNotes (key : String) (definition : Schema) : List Diagnostic :=
  d.missingNotes (some key) (memberReferences key definition)

/-- What is recorded of tasks, apart from what they bring. -/
def pendingNotes : List Task → List Diagnostic
  | [] => []
  | .follow r :: ts => d.missingNotes (walked? ts) [r] ++ pendingNotes ts
  | .note x :: ts => x :: pendingNotes ts
  | .finish _ :: ts => pendingNotes ts
  | .offer _ _ :: ts => pendingNotes ts

/-- What is recorded of the definitions that have been met. -/
def metNotes (s : Progress) : List Diagnostic :=
  (d.definitions.entries.filter fun p => s.met p.1).flatMap fun p => d.definitionNotes p.1 p.2

/-! ## References and tasks -/

theorem missingNotes_append (walked : Option String) (rs rs' : List String) :
    d.missingNotes walked (rs ++ rs') = d.missingNotes walked rs ++ d.missingNotes walked rs' := by
  simp [missingNotes]

theorem missingNotes_of_isSome {d : Document} {rs : List String}
    (h : ∀ r ∈ rs, (d.definition? r).isSome = true) (walked : Option String) :
    d.missingNotes walked rs = [] := by
  have hnone : (rs.filter fun r => (d.definition? r).isNone) = [] :=
    List.filter_eq_nil_iff.mpr fun r hr => by simp [Option.isSome_iff_ne_none.mp (h r hr)]
  rw [missingNotes, hnone, List.map_nil]

@[simp] theorem walked?_followAll_append (rs : List String) (ts : List Task) :
    walked? (followAll rs ++ ts) = walked? ts := by
  simp [walked?]

theorem pendingNotes_followAll_append (rs : List String) (ts : List Task) :
    d.pendingNotes (followAll rs ++ ts) = d.missingNotes (walked? ts) rs ++ d.pendingNotes ts := by
  induction rs with
  | nil => rfl
  | cons r rs ih =>
    rw [followAll_cons, List.cons_append, pendingNotes, ih, walked?_followAll_append,
      ← List.append_assoc, ← missingNotes_append, List.singleton_append]

theorem pendingNotes_followAll (rs : List String) :
    d.pendingNotes (followAll rs) = d.missingNotes none rs := by
  have h := d.pendingNotes_followAll_append rs []
  rwa [List.append_nil, pendingNotes, List.append_nil] at h

theorem pendingNotes_map_note (xs : List Diagnostic) : d.pendingNotes (xs.map .note) = xs := by
  induction xs with
  | nil => rfl
  | cons x xs ih => rw [List.map_cons, pendingNotes, ih]

/-- Tasks that finish no definition leave it open for which one the tasks before them are done. -/
theorem pendingNotes_append {us : List Task} (hus : us.filterMap Task.finishes? = []) (ts : List Task) :
    d.pendingNotes (ts ++ us) = d.pendingNotes ts ++ d.pendingNotes us := by
  induction ts with
  | nil => rfl
  | cons t ts ih =>
    have hwalked : walked? (ts ++ us) = walked? ts := by simp [walked?, hus]
    cases t with
    | follow r => simp only [List.cons_append, pendingNotes, ih, hwalked, List.append_assoc]
    | note x => simp only [List.cons_append, pendingNotes, ih]
    | finish key => simp only [List.cons_append, pendingNotes, ih]
    | offer path m => simp only [List.cons_append, pendingNotes, ih]

/-- What a definition brings is recorded under its key.  The definitions named in the key are there. -/
theorem pendingNotes_brings_append (scope : Scope) (key : String) (definition : Schema) (ts : List Task) :
    scope.document.pendingNotes (scope.brings key definition ++ ts) =
      scope.document.definitionNotes key definition ++ scope.document.pendingNotes ts := by
  have harguments : ∀ r ∈ (scope.document.argumentKeys key).map (definitionsHead ++ ·),
      (scope.document.definition? r).isSome = true := by
    intro r hr
    obtain ⟨name, hname, rfl⟩ := List.mem_map.mp hr
    rw [definition?, refKey_definitionsHead_append]
    exact (mem_argumentKeys.mp hname).2.2
  rw [Scope.brings, List.append_assoc, pendingNotes_followAll_append, List.cons_append, pendingNotes,
    pendingNotes_followAll_append, missingNotes_of_isSome harguments]
  rfl

/-! ## Definitions that have been met -/

variable {d}

theorem metNotes_congr {s t : Progress} (h : ∀ key, s.met key = t.met key) :
    d.metNotes s = d.metNotes t := by
  simp only [metNotes, h]

theorem metNotes_of_unmet {s : Progress} (h : ∀ key, ¬ s.met key = true) : d.metNotes s = [] := by
  rw [metNotes, List.filter_eq_nil_iff.mpr fun p _ => h p.1, List.flatMap_nil]

/-- A definition that is met for the first time adds what is recorded of it. -/
theorem metNotes_enter {s : Progress} {key : String} {definition : Schema}
    (hget : d.definitions.get? key = some definition) (hmet : s.met key = false) :
    (d.metNotes (s.enter key)).Perm (d.definitionNotes key definition ++ d.metNotes s) := by
  obtain ⟨before, after, hentries⟩ := List.append_of_mem (mem_of_lookup hget)
  -- every key stands once among the entries, so the others are met as before
  have hother : ∀ p ∈ before ++ after, (s.enter key).met p.1 = s.met p.1 := by
    have hnodup := d.definitions.nodup
    rw [keysOf, hentries, List.map_append, List.map_cons] at hnodup
    have hkey := (List.nodup_middle.mp hnodup).notMem
    rw [← List.map_append] at hkey
    intro p hp
    refine Bool.eq_iff_iff.mpr (Progress.met_enter_iff.trans (or_iff_left fun hp' => hkey ?_))
    exact List.mem_map.mpr ⟨p, hp, hp'⟩
  have hbefore : before.filter (fun p => (s.enter key).met p.1) = before.filter fun p => s.met p.1 :=
    List.filter_congr fun p hp => hother p (List.mem_append_left _ hp)
  have hafter : after.filter (fun p => (s.enter key).met p.1) = after.filter fun p => s.met p.1 :=
    List.filter_congr fun p hp => hother p (List.mem_append_right _ hp)
  simp only [metNotes, hentries, List.filter_append, List.filter_cons, Progress.met_enter_self, hmet,
    hbefore, hafter, if_true, Bool.false_eq_true, if_false, List.flatMap_append, List.flatMap_cons]
  exact List.perm_append_comm_assoc _ _ _

end Document

/-! ## The balance -/

namespace Scope

variable {scope : Scope} {s : Progress} {t : Task} {ts : List Task} {opening : List Diagnostic}

/-- What has been recorded and what the tasks are going to record is what there was to record at first and what
the definitions met have in themselves. -/
def Balanced (scope : Scope) (opening : List Diagnostic) (m : Moment) : Prop :=
  ((m.state.diagnostics ++ scope.document.pendingNotes m.tasks).filter fun x => !x.isCollision).Perm
    (opening ++ scope.document.metNotes m.state)

/-- The account depends on the diagnostics, on those that are pending, and on what has been met. -/
theorem Balanced.congr {m m' : Moment} (h : scope.Balanced opening m)
    (hnotes : (m'.state.diagnostics ++ scope.document.pendingNotes m'.tasks).filter
        (fun x => !x.isCollision) =
      (m.state.diagnostics ++ scope.document.pendingNotes m.tasks).filter fun x => !x.isCollision)
    (hmet : ∀ key, m'.state.met key = m.state.met key) : scope.Balanced opening m' := by
  rw [Balanced, hnotes, Document.metNotes_congr hmet]
  exact h

/-- References without a target are recorded under the innermost definition in progress. -/
theorem walked?_eq_getLast? {d : Document} (h : Orderly d ⟨s, ts⟩) :
    walked? ts = s.inProgress.getLast? := by
  have hfinishes : ts.filterMap Task.finishes? = s.inProgress.reverse := h.finishes
  rw [walked?, hfinishes, List.head?_reverse]

theorem filter_definitionNotes (d : Document) (key : String) (definition : Schema) :
    ((d.definitionNotes key definition).filter fun x => !x.isCollision) =
      d.definitionNotes key definition := by
  refine List.filter_eq_self.mpr fun x hx => ?_
  obtain ⟨r, -, rfl⟩ := List.mem_map.mp hx
  rfl

theorem diagnostics_finish (s : Progress) (key : String) :
    (scope.finish s key).diagnostics = s.diagnostics := by
  unfold finish
  split
  · rfl
  split <;> rfl

/-- Offering a model records nothing but the loss of its name. -/
theorem filter_diagnostics_offer (s : Progress) (path : String) (m : Model) :
    ((offer s path m).diagnostics.filter fun x => !x.isCollision) =
      s.diagnostics.filter fun x => !x.isCollision := by
  unfold offer
  split
  · split
    · rfl
    · rw [Progress.note, List.filter_append]
      exact List.append_nil _
  · rfl

/-- Meeting a definition for the first time adds to both sides of the account. -/
theorem Balanced.enter {r : String} {definition : Schema}
    (h : scope.Balanced opening ⟨s, .follow r :: ts⟩)
    (hdef : scope.document.definition? r = some definition) (hmet : s.met (refKey r) = false) :
    scope.Balanced opening ⟨s.enter (refKey r), scope.brings (refKey r) definition ++ ts⟩ := by
  have hfound : scope.document.missingNotes (walked? ts) [r] = [] :=
    Document.missingNotes_of_isSome (fun r' hr' => by rw [List.mem_singleton.mp hr', hdef]; rfl) _
  simp only [Balanced, Document.pendingNotes, hfound, List.nil_append, List.filter_append] at h
  simp only [Balanced, Document.pendingNotes_brings_append, List.filter_append, filter_definitionNotes]
  have hright := (Document.metNotes_enter hdef hmet).append_left opening
  have hleft := (h.append_left (scope.document.definitionNotes (refKey r) definition)).trans
    (List.perm_append_comm_assoc _ _ _)
  exact (List.perm_append_comm_assoc _ _ _).trans (hleft.trans hright.symm)

/-- **Every task keeps the balance.** -/
theorem Balanced.advance (horder : Orderly scope.document ⟨s, t :: ts⟩)
    (h : scope.Balanced opening ⟨s, t :: ts⟩) :
    scope.Balanced opening ⟨(scope.advance s t).1, (scope.advance s t).2 ++ ts⟩ := by
  cases t with
  | follow r =>
    have hwalked : walked? ts = s.inProgress.getLast? := walked?_eq_getLast? (horder.congr rfl rfl rfl)
    rcases scope.advance_follow_cases s r with ⟨hdef, hadv⟩ | ⟨_, hdef, -, hadv⟩ |
      ⟨definition, hdef, hmet, hadv⟩ <;> rw [hadv]
    · refine h.congr ?_ fun _ => rfl
      have hmissing : scope.document.missingNotes (walked? ts) [r] =
          [.unresolvedReference (s.subject r) r] := by
        simp [Document.missingNotes, hdef, hwalked, Progress.subject]
      simp only [Document.pendingNotes, hmissing, Progress.note, List.nil_append, List.append_assoc]
    · refine h.congr ?_ fun _ => rfl
      have hfound : scope.document.missingNotes (walked? ts) [r] = [] := by
        simp [Document.missingNotes, hdef]
      simp only [Document.pendingNotes, hfound, List.nil_append]
    · exact h.enter hdef hmet
  | finish key =>
    refine h.congr ?_ fun key' => scope.met_finish_of_met horder.met_of_finish
    simp only [Scope.advance, diagnostics_finish, Document.pendingNotes, List.nil_append]
  | note x =>
    refine h.congr ?_ fun _ => rfl
    simp only [Scope.advance, Progress.note, Document.pendingNotes, List.nil_append, List.append_assoc,
      List.cons_append]
  | offer path m =>
    refine h.congr ?_ fun key => met_offer s path m key
    simp only [Scope.advance, Document.pendingNotes, List.nil_append, List.filter_append,
      filter_diagnostics_offer]

/-- **The account at the end of a run.**  What there was to record at first, and what the definitions that can be
reached have in themselves, each of them once. -/
theorem diagnostics_run_perm {roots : List String} (hmet : ∀ key, ¬ s.met key = true)
    (horder : Orderly scope.document ⟨s, ts⟩) (hroots : ∀ r, .follow r ∈ ts ↔ r ∈ roots) :
    ((scope.run s ts).diagnostics.filter fun x => !x.isCollision).Perm
      (((s.diagnostics ++ scope.document.pendingNotes ts).filter fun x => !x.isCollision) ++
        (scope.document.definitions.entries.filter fun p =>
          decide (scope.document.Reachable roots p.1)).flatMap fun p =>
            scope.document.definitionNotes p.1 p.2) := by
  have hstart : scope.Balanced
      ((s.diagnostics ++ scope.document.pendingNotes ts).filter fun x => !x.isCollision) ⟨s, ts⟩ := by
    rw [Balanced, Document.metNotes_of_unmet hmet, List.append_nil]
  have hend := (((Orderly.kept scope).and Balanced.advance).run ⟨horder, hstart⟩).2
  have hreached : ∀ key, (scope.run s ts).met key = decide (scope.document.Reachable roots key) :=
    fun key => Bool.eq_iff_iff.mpr
      ((met_run_iff_reachable hmet horder hroots key).trans decide_eq_true_iff.symm)
  simpa only [Balanced, Document.pendingNotes, List.append_nil, Document.metNotes, hreached] using hend

end Scope

end ApiOutline
