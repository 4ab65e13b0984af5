import ApiOutline.Proofs.TypeExpr.Token
import ApiOutline.TypeExpr.Spelling

/-!
# What reading keeps

All trees that are read are put together by `build`, from the names among the tokens, from trees that have been read
before, and from the empty name where a name is missing.  So a property of trees that `build` keeps holds of everything
that is read.  The reader goes through the tokens once, and each token leaves the open argument lists and the slot as
they have to be.

* `BuildKeeps`: the properties of trees that `build` keeps, for names of some kind.
* `Slot.Holds`, `Frame.Holds`: slots and open argument lists with names of this kind and with trees that have the
  property.
* `BuildKeeps.holds_readFrom`, `BuildKeeps.holds_parse`: reading on, and reading a text.
-/

namespace ApiOutline.TypeExpr

open Token

/-- Building keeps the property `T` of trees for names in `N`, to which the empty name belongs. -/
structure BuildKeeps (space : Option String) (N : String → Prop) (T : TypeExpr → Prop) : Prop where
  empty : N ""
  build : ∀ {name : String} {args : List TypeExpr}, N name → (∀ e ∈ args, T e) → T (build space name args)

section

variable (N : String → Prop) (T : TypeExpr → Prop)

/-- What has been read into the slot is a name in `N` or a tree with the property `T`. -/
def Slot.Holds : Slot → Prop
  | empty => True
  | named n => N n
  | filled e => T e

/-- The open argument list has a name in `N` before it, and its arguments have the property `T`. -/
structure Frame.Holds (f : Frame) : Prop where
  base : N f.base
  args : ∀ e ∈ f.args, T e

end

theorem forall_name_cons {P : String → Prop} {t : Token} {ts : List Token} :
    (∀ n, .name n ∈ t :: ts → P n) ↔ (∀ n, .name n = t → P n) ∧ ∀ n, .name n ∈ ts → P n := by
  simp only [List.mem_cons, or_imp, forall_and]

namespace BuildKeeps

variable {space : Option String} {N : String → Prop} {T : TypeExpr → Prop} (h : BuildKeeps space N T)

include h

theorem holds_value {slot : Slot} (hslot : slot.Holds N T) : T (slot.value space) := by
  have hnone : ∀ e ∈ ([] : List TypeExpr), T e := fun _ he => absurd he List.not_mem_nil
  cases slot with
  | empty => exact h.build h.empty hnone
  | named n => exact h.build hslot hnone
  | filled e => exact hslot

theorem holds_close {f : Frame} {last : TypeExpr} (hf : f.Holds N T) (hlast : T last) : T (f.close space last) := by
  refine h.build hf.base fun e he => ?_
  rcases List.mem_cons.mp (List.mem_reverse.mp he) with rfl | he
  · exact hlast
  · exact hf.args e he

theorem holds_closeAll {frames : List Frame} {e : TypeExpr} (he : T e) (hframes : ∀ f ∈ frames, f.Holds N T) :
    T (closeAll space e frames) := by
  induction frames generalizing e with
  | nil => exact he
  | cons f frames ih =>
    obtain ⟨hf, hframes⟩ := List.forall_mem_cons.mp hframes
    exact ih (h.holds_close hf he) hframes

/-- Reading on gives a tree with the property, whatever the delimiters are: each token leaves the open argument lists
and the slot as they have to be. -/
theorem holds_readFrom {frames : List Frame} {slot : Slot} {ts : List Token} (hframes : ∀ f ∈ frames, f.Holds N T)
    (hslot : slot.Holds N T) (hts : ∀ n, .name n ∈ ts → N n) : T (readFrom space frames slot ts) := by
  have hnone : ∀ e ∈ ([] : List TypeExpr), T e := fun _ he => absurd he List.not_mem_nil
  fun_induction readFrom space frames slot ts with
  | case1 frames slot => exact h.holds_closeAll (h.holds_value hslot) hframes
  | case2 frames n rest ih =>
    rw [forall_name_cons] at hts
    exact ih hframes (hts.1 n rfl) hts.2
  | case3 frames rest ih =>
    rw [forall_name_cons] at hts
    exact ih (List.forall_mem_cons.mpr ⟨⟨h.empty, hnone⟩, hframes⟩) trivial hts.2
  | case4 frames n rest ih =>
    rw [forall_name_cons] at hts
    exact ih (List.forall_mem_cons.mpr ⟨⟨hslot, hnone⟩, hframes⟩) trivial hts.2
  | case5 f frames slot rest ih =>
    rw [forall_name_cons] at hts
    obtain ⟨hf, hframes⟩ := List.forall_mem_cons.mp hframes
    have hargs : ∀ e ∈ slot.value space :: f.args, T e := List.forall_mem_cons.mpr ⟨h.holds_value hslot, hf.args⟩
    exact ih (List.forall_mem_cons.mpr ⟨⟨hf.base, hargs⟩, hframes⟩) trivial hts.2
  | case6 f frames slot rest ih =>
    rw [forall_name_cons] at hts
    obtain ⟨hf, hframes⟩ := List.forall_mem_cons.mp hframes
    exact ih hframes (h.holds_close hf (h.holds_value hslot)) hts.2
  | case7 frames slot ts => exact h.holds_closeAll (h.holds_value hslot) hframes

/-- **What is read has the properties that building keeps.** -/
theorem holds_parse {text : String} (hnames : ∀ n, .name n ∈ scan text → N n) : T (parse space text) :=
  h.holds_readFrom (fun _ hf => absurd hf List.not_mem_nil) trivial hnames

end BuildKeeps

end ApiOutline.TypeExpr
