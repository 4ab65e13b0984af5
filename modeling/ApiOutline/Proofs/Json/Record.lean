import ApiOutline.Json.Record
import ApiOutline.Proofs.Json.Accepts
import ApiOutline.Proofs.Json.Decoded

/-!
# Records and their written forms

A record is written as an object whose members set its fields one after the other, in the order of the fields; a field
that has no value is left out, unless it is required.  Such an object is decoded to the record that the members make
of the blank one.

What every field keeps when it is set, beginning with the blank record, holds of all records that are decoded, from
whichever form.

* `Written`: members that set the fields of a record one after the other.
* `Written.accepts`: such members are decoded to the record that they write.
* `Record.Keeps`, `Record.of_decoder`: what holds of all records that are decoded.
* `toOption_objectDecoder_of_missing`: an object without a required member is no record.
-/

namespace ApiOutline.Json

open Decoder

variable {α β : Type}

/-! ## Writing the fields in order -/

/-- Members that make one record of another by setting fields, each at its place among the fields; a field that is not
required may be left out. -/
inductive Written (levels : Nat) : List (Field α) → List (String × Json) → α → α → Prop where
  | nil {a : α} : Written levels [] [] a a
  | leftOut {f : Field α} {fs : List (Field α)} {ms : List (String × Json)} {a b : α}
    (hspare : f.required = false) (h : Written levels fs ms a b) : Written levels (f :: fs) ms a b
  | member {f : Field α} {fs : List (Field α)} {v : Json} {ms : List (String × Json)} {a b : α}
    {set : α → α} (hread : Accepts f.read levels v set) (h : Written levels fs ms (set a) b) :
    Written levels (f :: fs) ((f.name, v) :: ms) a b

namespace Written

variable {levels : Nat} {name : String} {d : Decoder β} {fs : List (Field α)} {v : Json} {x : β}
  {ms : List (String × Json)} {a b : α}

theorem fits {fs : List (Field α)} (h : Written levels fs ms a b) : ∀ m ∈ ms, m.2.Fits levels := by
  induction h with
  | nil => exact fun _ hm => absurd hm List.not_mem_nil
  | leftOut _ _ ih => exact ih
  | member hread _ ih => exact List.forall_mem_cons.mpr ⟨hread.fits, ih⟩

theorem of_append_nil (h : Written levels fs (ms ++ []) a b) : Written levels fs ms a b := by
  rwa [List.append_nil] at h

/-- A required field. -/
theorem needed {set : β → α → α} (hread : Accepts d levels v x) (h : Written levels fs ms (set x a) b) :
    Written levels (.needed name d set :: fs) (field name v ++ ms) a b :=
  member (f := .needed name d set) (hread.map set) h

/-- A field that may be left out but is not. -/
theorem spare {set : β → α → α} (hread : Accepts d levels v x) (h : Written levels fs ms (set x a) b) :
    Written levels (.spare name d set :: fs) (field name v ++ ms) a b :=
  member (f := .spare name d set) (hread.map set) h

/-- A list that is left out when it is empty. -/
theorem spareIfAny {γ : Type} {set : β → α → α} {encode : List γ → Json} {l : List γ}
    (hread : l ≠ [] → Accepts d levels (encode l) x) (hnil : l = [] → set x a = a)
    (h : Written levels fs ms (set x a) b) :
    Written levels (.spare name d set :: fs) (fieldIfAny name encode l ++ ms) a b := by
  cases l with
  | nil =>
    rw [hnil rfl] at h
    exact leftOut rfl h
  | cons c l => exact spare (hread (by simp)) h

/-- A field that is left out when it has no value, and read as something else than was written. -/
theorem optionalMap {γ : Type} {set : Option β → α → α} {encode : γ → Json} {f : γ → β} {o : Option γ}
    (hread : ∀ c, o = some c → Accepts d levels (encode c) (f c)) (hencode : ∀ c, encode c ≠ .null)
    (hnone : set none a = a) (h : Written levels fs ms (set (o.map f) a) b) :
    Written levels (.optional name d set :: fs) (fieldIfSome name encode o ++ ms) a b := by
  cases o with
  | none =>
    rw [Option.map_none, hnone] at h
    exact leftOut rfl h
  | some c =>
    exact member (f := .optional name d set) (((hread c rfl).optional (hencode c)).map set) h

/-- A field that is left out when it has no value. -/
theorem optional {set : Option β → α → α} {encode : β → Json} {o : Option β}
    (hread : ∀ x, o = some x → Accepts d levels (encode x) x) (hencode : ∀ x, encode x ≠ .null)
    (hnone : set none a = a) (h : Written levels fs ms (set o a) b) :
    Written levels (.optional name d set :: fs) (fieldIfSome name encode o ++ ms) a b :=
  optionalMap (f := id) hread hencode hnone (by rwa [Option.map_id_fun, id_eq])

/-- A text that is left out when it is not there. -/
theorem optionalText {set : Option String → α → α} {o : Option String} (hnone : set none a = a)
    (h : Written levels fs ms (set o a) b) :
    Written levels (.optional name .text set :: fs) (fieldIfSome name str o ++ ms) a b :=
  optional (fun _ _ => accepts_text) (fun _ => Json.noConfusion) hnone h

/-- A text that is `null` when it is not there. -/
theorem optionalTextOrNull {set : Option String → α → α} {o : Option String}
    (h : Written levels fs ms (set o a) b) :
    Written levels (.optional name .text set :: fs) (field name (orNull str o) ++ ms) a b := by
  cases o with
  | none => exact member (f := .optional name .text set) (accepts_null.map set) h
  | some s =>
    exact member (f := .optional name .text set) ((accepts_text.optional Json.noConfusion).map set) h

/-! ## Reading them back -/

theorem find?_name {fields : List (Field α)} (hnodup : (fields.map Field.name).Nodup) {f : Field α}
    (hf : f ∈ fields) : fields.find? (fun g => g.name == f.name) = some f := by
  induction fields with
  | nil => exact absurd hf List.not_mem_nil
  | cons g fields ih =>
    rw [List.map_cons, List.nodup_cons] at hnodup
    rcases List.mem_cons.mp hf with rfl | hf
    · rw [List.find?_cons_of_pos (by simp)]
    · have hne : g.name ≠ f.name := fun e => hnodup.1 (e ▸ List.mem_map_of_mem hf)
      rw [List.find?_cons_of_neg (by simpa using hne), ih hnodup.2 hf]

/-- The members are read into the record that they write, and no required field is missing. -/
theorem readMembers {r : Record α} (h : Written levels fs ms a b) (hfields : ∀ f ∈ fs, f ∈ r.fields)
    (hrecord : (r.fields.map Field.name).Nodup) (hnodup : (fs.map Field.name).Nodup)
    {seen : List String} (hseen : ∀ f ∈ fs, f.name ∉ seen) :
    ∃ seen', r.readMembers levels a seen (toMembers ms) = .ok (b, seen') ∧ seen ⊆ seen' ∧
      ∀ f ∈ fs, f.required = true → f.name ∈ seen' := by
  induction h generalizing seen with
  | nil => exact ⟨seen, rfl, List.Subset.refl _, fun _ hf => absurd hf List.not_mem_nil⟩
  | leftOut hspare _ ih =>
    obtain ⟨-, hfields⟩ := List.forall_mem_cons.mp hfields
    obtain ⟨-, hseen⟩ := List.forall_mem_cons.mp hseen
    obtain ⟨seen', hread, hsub, hrequired⟩ := ih hfields (List.nodup_cons.mp hnodup).2 hseen
    refine ⟨seen', hread, hsub, List.forall_mem_cons.mpr ⟨fun hf => ?_, hrequired⟩⟩
    rw [hspare] at hf
    exact absurd hf (by simp)
  | @member f fs v ms a b set haccepts _ ih =>
    obtain ⟨hf, hfields⟩ := List.forall_mem_cons.mp hfields
    obtain ⟨hnew, hseen⟩ := List.forall_mem_cons.mp hseen
    rw [List.map_cons, List.nodup_cons] at hnodup
    have hrest : ∀ g ∈ fs, g.name ∉ f.name :: seen := fun g hg hmem => by
      rcases List.mem_cons.mp hmem with e | hmem
      · exact hnodup.1 (e ▸ List.mem_map_of_mem hg)
      · exact hseen g hg hmem
    obtain ⟨seen', hread, hsub, hrequired⟩ := ih hfields hnodup.2 hrest
    refine ⟨seen', ?_, fun k hk => hsub (List.mem_cons_of_mem _ hk),
      List.forall_mem_cons.mpr ⟨fun _ => hsub List.mem_cons_self, hrequired⟩⟩
    have hcontains : seen.contains f.name = false := by simpa using hnew
    rw [toMembers, Record.readMembers, find?_name hrecord hf]
    simp only [hcontains, Bool.false_eq_true, if_false]
    rw [haccepts.decodes]
    exact hread

theorem ofMembers {r : Record α} (h : Written levels r.fields ms r.blank b)
    (hrecord : (r.fields.map Field.name).Nodup) : r.ofMembers levels (toMembers ms) .closed = .ok b := by
  obtain ⟨seen, hread, -, hrequired⟩ := h.readMembers (fun _ hf => hf) hrecord hrecord
    (fun _ _ hmem => absurd hmem List.not_mem_nil)
  have hnone : (r.fields.find? fun f => f.required && !seen.contains f.name) = none := by
    rw [List.find?_eq_none]
    intro f hf hmissing
    simp only [Bool.and_eq_true, Bool.not_eq_true', List.contains_eq_mem, decide_eq_false_iff_not]
      at hmissing
    exact hmissing.2 (hrequired f hf hmissing.1)
  simp only [Record.ofMembers, hread, bind, Except.bind, hnone]
  rfl

/-- **Members that write a record are decoded to it.** -/
theorem accepts {r : Record α} (h : Written levels r.fields ms r.blank b)
    (hrecord : (r.fields.map Field.name).Nodup) : Accepts r.decoder (levels + 1) (.obj ms) b where
  fits := .obj h.fits
  decodes := h.ofMembers hrecord

theorem accepts_object {r : Record α} (h : Written levels r.fields ms r.blank b)
    (hrecord : (r.fields.map Field.name).Nodup) :
    Accepts r.objectDecoder (levels + 1) (.obj ms) b where
  fits := .obj h.fits
  decodes := h.ofMembers hrecord

end Written

/-! ## What all decoded records have in common -/

namespace Field

/-- Setting the field, to whatever is read, keeps `P`. -/
def Keeps (levels : Nat) (P : α → Prop) (f : Field α) : Prop :=
  ∀ node set, f.read levels node = .ok set → ∀ a, P a → P (set a)

variable {levels : Nat} {P : α → Prop} {name : String} {d : Decoder β}

theorem keeps_needed {set : β → α → α}
    (h : ∀ node x, d levels node = .ok x → ∀ a, P a → P (set x a)) :
    (Field.needed name d set).Keeps levels P := by
  intro node _ hread a ha
  obtain ⟨x, hx, rfl⟩ := eq_ok_of_map hread
  exact h node x hx a ha

theorem keeps_spare {set : β → α → α}
    (h : ∀ node x, d levels node = .ok x → ∀ a, P a → P (set x a)) :
    (Field.spare name d set).Keeps levels P := by
  intro node _ hread a ha
  obtain ⟨x, hx, rfl⟩ := eq_ok_of_map hread
  exact h node x hx a ha

theorem keeps_optional {set : Option β → α → α}
    (h : ∀ o : Option β, (∀ x, o = some x → ∃ node, d levels node = .ok x) → ∀ a, P a → P (set o a)) :
    (Field.optional name d set).Keeps levels P := by
  intro node _ hread a ha
  obtain ⟨o, ho, rfl⟩ := eq_ok_of_map hread
  exact h o (fun x hx => ⟨node, eq_ok_of_optional ho hx⟩) a ha

end Field

namespace Record

variable {r : Record α} {levels : Nat} {P : α → Prop}

/-- `P` holds of the blank record, and setting any field keeps it. -/
structure Keeps (r : Record α) (levels : Nat) (P : α → Prop) : Prop where
  blank : P r.blank
  fields : ∀ f ∈ r.fields, f.Keeps levels P

namespace Keeps

theorem readMembers (h : r.Keeps levels P) {ms : List (Except Fault String × Node)} {a b : α}
    {seen seen' : List String} (ha : P a) (hread : r.readMembers levels a seen ms = .ok (b, seen')) :
    P b := by
  induction ms generalizing a seen with
  | nil =>
    obtain ⟨rfl, -⟩ := Prod.mk.inj (Except.ok.inj hread)
    exact ha
  | cons m ms ih =>
    obtain ⟨key, n⟩ := m
    cases key with
    | error f => exact absurd hread (by simp [Record.readMembers, failFault])
    | ok key =>
      rw [Record.readMembers] at hread
      split at hread
      · exact ih ha (eq_ok_of_unlessFault hread)
      next f hfind =>
      split at hread
      · exact absurd hread (by simp [failData])
      · obtain ⟨set, hset, hread⟩ := eq_ok_of_bind hread
        exact ih (h.fields f (List.mem_of_find?_eq_some hfind) n set hset a ha) hread

theorem ofMembers (h : r.Keeps levels P) {ms : List (Except Fault String × Node)} {ending : Ending}
    {b : α} (hread : r.ofMembers levels ms ending = .ok b) : P b := by
  obtain ⟨⟨b', seen⟩, hmembers, hread⟩ := eq_ok_of_bind hread
  have hread := eq_ok_of_unlessFault hread
  split at hread
  · exact absurd hread (by simp [failData])
  · obtain rfl := Except.ok.inj hread
    exact h.readMembers h.blank hmembers

theorem readItems (h : r.Keeps levels P) {ending : Ending} {items : List Node} {fs : List (Field α)}
    (hfs : ∀ f ∈ fs, f ∈ r.fields) {n : Nat} {a b : α} (ha : P a)
    (hread : r.readItems levels ending n a fs items = .ok b) : P b := by
  induction fs generalizing n a items with
  | nil =>
    cases items with
    | nil =>
      cases ending with
      | closed =>
        obtain rfl := Except.ok.inj hread
        exact ha
      | _ => exact absurd hread (by simp [Record.readItems, failFault])
    | cons item items => exact absurd hread (by simp [Record.readItems, failFault])
  | cons f fs ih =>
    obtain ⟨hf, hfs⟩ := List.forall_mem_cons.mp hfs
    cases items with
    | nil =>
      have hread := eq_ok_of_unlessFault hread
      split at hread
      · exact absurd hread (by simp [failData])
      · obtain rfl := Except.ok.inj hread
        exact ha
    | cons item items =>
      obtain ⟨set, hset, hread⟩ := eq_ok_of_bind hread
      exact ih hfs (h.fields f hf item set hset a ha) hread

end Keeps

theorem of_objectDecoder {P : Nat → α → Prop} (h : ∀ inner, levels = inner + 1 → r.Keeps inner (P inner))
    {node : Node} {a : α} (hread : r.objectDecoder levels node = .ok a) :
    ∃ inner, levels = inner + 1 ∧ P inner a := by
  unfold objectDecoder at hread
  split at hread
  · split at hread
    · exact absurd hread (by simp [failFault])
    · have hlevels : levels = levels - 1 + 1 := by omega
      exact ⟨levels - 1, hlevels, (h _ hlevels).ofMembers hread⟩
  · exact absurd hread (mismatch_ne_ok _ _ _)

/-- **What holds of the blank record and is kept by every field holds of all decoded records**, be they written as
objects or as lists.  There was a level left for them. -/
theorem of_decoder {P : Nat → α → Prop} (h : ∀ inner, levels = inner + 1 → r.Keeps inner (P inner))
    {node : Node} {a : α} (hread : r.decoder levels node = .ok a) :
    ∃ inner, levels = inner + 1 ∧ P inner a := by
  unfold decoder at hread
  split at hread
  · next ms ending =>
    have hobject : r.objectDecoder levels (.object ms ending) = .ok a := hread
    exact of_objectDecoder h hobject
  · split at hread
    · exact absurd hread (by simp [failFault])
    · have hlevels : levels = levels - 1 + 1 := by omega
      exact ⟨levels - 1, hlevels, (h _ hlevels).readItems (fun _ hf => hf) (h _ hlevels).blank hread⟩
  · exact absurd hread (mismatch_ne_ok _ _ _)

/-- What every field keeps, whatever the levels, holds of all decoded records. -/
theorem holds_of_decoder {P : α → Prop} (h : ∀ inner, r.Keeps inner P) {node : Node} {a : α}
    (hread : r.decoder levels node = .ok a) : P a := by
  obtain ⟨_, -, ha⟩ := of_decoder (fun inner _ => h inner) hread
  exact ha

theorem Keeps.of_decoder_succ {P : α → Prop} (h : r.Keeps levels P) {node : Node} {a : α}
    (hread : r.decoder (levels + 1) node = .ok a) : P a := by
  obtain ⟨_, -, ha⟩ := of_decoder (P := fun _ => P) (fun _ hinner => Nat.succ.inj hinner ▸ h) hread
  exact ha

/-! ## Members that are missing -/

/-- Only what is written is seen. -/
theorem mem_of_readMembers {ms : List (String × Json)} {a b : α} {seen seen' : List String}
    (hread : r.readMembers levels a seen (toMembers ms) = .ok (b, seen')) {key : String}
    (hkey : key ∈ seen') : key ∈ seen ∨ key ∈ keysOf ms := by
  induction ms generalizing a seen with
  | nil =>
    obtain ⟨-, rfl⟩ := Prod.mk.inj (Except.ok.inj hread)
    exact Or.inl hkey
  | cons m ms ih =>
    obtain ⟨k, v⟩ := m
    rw [toMembers, Record.readMembers] at hread
    split at hread
    · exact (ih (eq_ok_of_unlessFault hread)).imp_right (List.mem_cons_of_mem _)
    split at hread
    · exact absurd hread (by simp [failData])
    · obtain ⟨set, -, hread⟩ := eq_ok_of_bind hread
      rcases ih hread with hseen | hms
      · exact (List.mem_cons.mp hseen).elim (fun e => Or.inr (e ▸ List.mem_cons_self)) Or.inl
      · exact Or.inr (List.mem_cons_of_mem _ hms)

/-- **An object without a required member is no record.** -/
theorem toOption_objectDecoder_of_missing {f : Field α} (hf : f ∈ r.fields) (hrequired : f.required = true)
    {ms : List (String × Json)} (hms : f.name ∉ keysOf ms) :
    (r.objectDecoder levels (Json.obj ms).toNode).toOption = none := by
  cases hread : r.objectDecoder levels (Json.obj ms).toNode with
  | error e => rfl
  | ok a =>
    rw [toNode, objectDecoder] at hread
    split at hread
    · exact absurd hread (by simp [failFault])
    obtain ⟨⟨b, seen⟩, hmembers, hread⟩ := eq_ok_of_bind hread
    have hread := eq_ok_of_unlessFault hread
    split at hread
    · exact absurd hread (by simp [failData])
    next hnone =>
    have hseen : f.name ∈ seen := by
      simpa [hrequired] using List.find?_eq_none.mp hnone f hf
    exact absurd ((mem_of_readMembers hmembers hseen).resolve_left List.not_mem_nil) hms

end Record

end ApiOutline.Json
