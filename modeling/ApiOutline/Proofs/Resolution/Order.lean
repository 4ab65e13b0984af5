import ApiOutline.Document.Codec
import ApiOutline.Proofs.Model.Registry
import ApiOutline.Proofs.Resolution.Losses

/-!
# The order of lookups

Lookups that are done in another order walk the definitions from other roots.  They cut circles elsewhere, and come to
the same reference inside another definition.  Still they end alike: what can be reached from several references does
not depend on the order in which they stand, and what is registered and recorded can be read off that.

It takes one condition.  A name goes to the model that comes first, so among the definitions that can be reached there
must be no two with the same model name, unless it is the name of a builtin and they become no models at all.

* `Document.NamedApart`: definitions that do not compete for a name.
* `Scope.mem_models_run_followAll_iff`: the models that references lead to.
* `Scope.diagnostics_run_followAll`: what is recorded on the way.
* `Lookup.sorted_eq_and_diagnostics_perm`: the main statement.
-/

namespace ApiOutline

/-! ## What can be reached -/

namespace Document

variable {d : Document} {roots roots' : List String} {key : String}

/-- More references lead to more definitions. -/
theorem Reachable.mono (hroots : ∀ r ∈ roots, r ∈ roots') (h : d.Reachable roots key) : d.Reachable roots' key := by
  induction h with
  | root hr hdef => exact .root (hroots _ hr) hdef
  | member _ hget hr hdef ih => exact .member ih hget hr hdef
  | argument _ hname hother hget ih => exact .argument ih hname hother hget

/-- What can be reached does not depend on the order of the references. -/
theorem reachable_perm (h : roots.Perm roots') : d.Reachable roots key ↔ d.Reachable roots' key :=
  ⟨.mono fun _ hr => h.mem_iff.mp hr, .mono fun _ hr => h.mem_iff.mpr hr⟩

/-- No two definitions that references lead to want the same name for their models. -/
def NamedApart (d : Document) (roots : List String) : Prop :=
  ∀ key key', d.Reachable roots key → d.Reachable roots key' → modelName key = modelName key' →
    Builtin.isName (modelName key) = false → key = key'

theorem NamedApart.perm (h : roots.Perm roots') (hapart : d.NamedApart roots) : d.NamedApart roots' :=
  fun key key' hkey hkey' => hapart key key' ((reachable_perm h).mpr hkey) ((reachable_perm h).mpr hkey')

end Document

/-! ## Where references end -/

namespace Scope

variable {scope : Scope} {roots : List String}

/-- **The models that references lead to.**  They are the models of the definitions that can be reached, if these do
not compete for a name. -/
theorem mem_models_run_followAll_iff (hapart : scope.document.NamedApart roots) {m : Model} :
    m ∈ (scope.run .start (followAll roots)).registry.models ↔
      ∃ key definition, scope.document.Reachable roots key ∧
        scope.document.definitions.get? key = some definition ∧ Builtin.isName (modelName key) = false ∧
          m = scope.model key definition := by
  have horder := Orderly.start scope.document (finishes?_followAll roots)
  have hmet := met_run_iff_reachable Progress.met_start horder fun r => mem_followAll (r := r)
  have hfrom : ∀ m ∈ (scope.run .start (followAll roots)).registry.models, ∃ key definition,
      scope.document.Reachable roots key ∧ scope.document.definitions.get? key = some definition ∧
        Builtin.isName (modelName key) = false ∧ m = scope.model key definition := by
    intro m hm
    rcases scope.mem_models_run hm with hstart | ⟨path, hoffer⟩ | ⟨key, definition, hget, hmodel, hbuiltin, hkey⟩
    · exact absurd hstart List.not_mem_nil
    · exact absurd hoffer (by simp [followAll])
    · exact ⟨key, definition, (hmet key).mp hkey, hget, hbuiltin, hmodel⟩
  refine ⟨hfrom m, ?_⟩
  rintro ⟨key, definition, hkey, hget, hbuiltin, rfl⟩
  -- the name has been given to a model, and only this one wants it
  have hcomplete : Complete scope roots ⟨scope.run .start (followAll roots), []⟩ :=
    complete_run Progress.met_start horder fun r => mem_followAll.mpr
  have hname := (hcomplete.registered key ((hmet key).mpr hkey) hkey.isSome_definition hbuiltin).resolve_right
    List.not_mem_nil
  rw [Registry.contains_eq_true_iff] at hname
  obtain ⟨m, hm, hname⟩ := List.mem_map.mp hname
  obtain ⟨key', definition', hkey', hget', -, rfl⟩ := hfrom m hm
  obtain rfl : key = key' := hapart key key' hkey hkey' hname.symm hbuiltin
  obtain rfl : definition = definition' := Option.some.inj (hget.symm.trans hget')
  exact hm

/-- **What is recorded while references are followed.**  The ones without a definition are, and so are those of the
definitions that can be reached, each definition once. -/
theorem diagnostics_run_followAll (scope : Scope) (roots : List String) :
    (scope.run .start (followAll roots)).diagnostics.Perm
      (scope.document.missingNotes none roots ++
        (scope.document.definitions.entries.filter fun p =>
          decide (scope.document.Reachable roots p.1)).flatMap fun p =>
            scope.document.definitionNotes p.1 p.2) := by
  have hcollisions := @collisions_run scope .start (followAll roots)
  rw [flatMap_losses_followAll, List.append_nil] at hcollisions
  have hcollisions : ∀ x ∈ (scope.run .start (followAll roots)).diagnostics, x.isCollision = false := by
    intro x hx
    simpa using List.filter_eq_nil_iff.mp hcollisions x hx
  have haccount := diagnostics_run_perm Progress.met_start
    (Orderly.start scope.document (finishes?_followAll roots)) fun r => mem_followAll (r := r)
  have hmissing : ((scope.document.missingNotes none roots).filter fun x => !x.isCollision) =
      scope.document.missingNotes none roots := by
    refine List.filter_eq_self.mpr fun x hx => ?_
    obtain ⟨r, -, rfl⟩ := List.mem_map.mp hx
    rfl
  rw [List.filter_eq_self.mpr fun x hx => by simp [hcollisions x hx], Document.pendingNotes_followAll,
    Progress.start, List.nil_append, hmissing] at haccount
  exact haccount

/-- The order of references does not change what is recorded. -/
theorem diagnostics_run_followAll_perm (scope : Scope) {roots roots' : List String} (h : roots.Perm roots') :
    (scope.run .start (followAll roots)).diagnostics.Perm
      (scope.run .start (followAll roots')).diagnostics := by
  have hreached : (fun p : String × Schema => decide (scope.document.Reachable roots p.1)) =
      fun p => decide (scope.document.Reachable roots' p.1) :=
    funext fun p => decide_eq_decide.mpr (Document.reachable_perm h)
  have hmissing : (scope.document.missingNotes none roots).Perm (scope.document.missingNotes none roots') :=
    (h.filter _).map _
  refine (scope.diagnostics_run_followAll roots).trans (.trans ?_ (scope.diagnostics_run_followAll roots').symm)
  rw [hreached]
  exact hmissing.append_right _

/-- The order of references does not change the sorted models. -/
theorem sorted_run_followAll_perm {roots' : List String} (h : roots.Perm roots')
    (hapart : scope.document.NamedApart roots) :
    (scope.run .start (followAll roots)).registry.sorted =
      (scope.run .start (followAll roots')).registry.sorted := by
  refine Registry.sorted_congr fun m => ?_
  simp only [mem_models_run_followAll_iff hapart, mem_models_run_followAll_iff (hapart.perm h),
    Document.reachable_perm h]

end Scope

/-! ## Lookups in another order -/

namespace Lookup

/-- The state after lookups, one after the other from the fresh state. -/
def walkAll (scope : Scope) (lookups : List Lookup) : Progress :=
  ((lookups.forM fun l => discard (l.walk scope)) .start).2

theorem walkAll_eq (scope : Scope) (lookups : List Lookup) :
    walkAll scope lookups = scope.run .start (followAll (lookups.flatMap references)) := by
  rw [walkAll, walk_apply]

/-- **The order of lookups does not show.**  If the definitions that they lead to do not compete for a name, lookups
that are done in another order end with the same sorted models and with the same diagnostics, each as often as
before. -/
theorem sorted_eq_and_diagnostics_perm (scope : Scope) {lookups lookups' : List Lookup}
    (h : lookups.Perm lookups') (hapart : scope.document.NamedApart (lookups.flatMap references)) :
    (walkAll scope lookups).registry.sorted = (walkAll scope lookups').registry.sorted ∧
      (walkAll scope lookups).diagnostics.Perm (walkAll scope lookups').diagnostics := by
  have hroots : (lookups.flatMap references).Perm (lookups'.flatMap references) := h.flatMap_right references
  rw [walkAll_eq, walkAll_eq]
  exact ⟨Scope.sorted_run_followAll_perm hroots hapart, scope.diagnostics_run_followAll_perm hroots⟩

/-- Orders and their lines, which refer to each other; orders refer to notes, too, which there are none of. -/
def ordersAndLines : Document :=
  let order : Schema := { Schema.blank with reference := some "#/definitions/Order" }
  let line : Schema := { Schema.blank with reference := some "#/definitions/Line" }
  let note : Schema := { Schema.blank with reference := some "#/definitions/Note" }
  { Document.blank with
    definitions := ⟨[("Order", { Schema.blank with properties := [("line", line), ("note", note)] }),
      ("Line", { Schema.blank with properties := [("order", order)] })], by decide⟩ }

theorem namedApart_ordersAndLines (roots : List String) : ordersAndLines.NamedApart roots := by
  have hnames : ∀ key ∈ ordersAndLines.definitions.keys, ∀ key' ∈ ordersAndLines.definitions.keys,
      modelName key = modelName key' → key = key' := by
    decide +kernel
  intro key key' hkey hkey' hname _
  exact hnames key hkey.mem_keys key' hkey'.mem_keys hname

/-- It makes no difference whether orders are looked up first, or their lines. -/
theorem sorted_eq_and_diagnostics_perm_ordersAndLines :
    let scope : Scope := ⟨ordersAndLines, .empty⟩
    let order : Lookup := .reference "#/definitions/Order"
    let line : Lookup := .reference "#/definitions/Line"
    [order, line].Perm [line, order] ∧
      ordersAndLines.NamedApart ([order, line].flatMap references) ∧
      (walkAll scope [order, line]).registry.sorted = (walkAll scope [line, order]).registry.sorted ∧
      (walkAll scope [order, line]).diagnostics.Perm (walkAll scope [line, order]).diagnostics :=
  ⟨.swap _ _ _, namedApart_ordersAndLines _,
    sorted_eq_and_diagnostics_perm _ (.swap _ _ _) (namedApart_ordersAndLines _)⟩

end Lookup

end ApiOutline
