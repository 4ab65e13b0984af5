import ApiOutline.Proofs.Json.Record

/-!
# Decoders whose results are read back

A decoder is stable when every value it gives, from whatever reading, is read back by it from the written form of the
value.  The levels of containers count: the written form has to fit into those that were left for the reading.

Where the form of a value is found out by trying, a form that is tried early must refuse what is written of a later
one.

* `AcceptsSome`: what may be left out, and is read back if it is there.
* `StableAt`: the decoders that are stable, within some levels.
* `StableAt.list`, `StableAt.dict`, `StableAt.alternatives`: decoders that are put together.
-/

namespace ApiOutline.Json

open Decoder

variable {α β : Type} {levels : Nat} {d : Decoder α} {encode : α → Json}

/-- If the value is there, the decoder accepts its written form as the value. -/
def AcceptsSome (d : Decoder α) (levels : Nat) (encode : α → Json) (o : Option α) : Prop :=
  ∀ a, o = some a → Accepts d levels (encode a) a

theorem acceptsSome_none : AcceptsSome d levels encode none :=
  fun _ h => absurd h (by simp)

/-- Whatever the decoder gives when so many levels may be opened, it accepts the written form of it as the same. -/
def StableAt (levels : Nat) (d : Decoder α) (encode : α → Json) : Prop :=
  ∀ node a, d levels node = .ok a → Accepts d levels (encode a) a

namespace StableAt

theorem acceptsSome (h : StableAt levels d encode) {o : Option α}
    (ho : ∀ a, o = some a → ∃ node, d levels node = .ok a) : AcceptsSome d levels encode o := fun a ha => by
  obtain ⟨node, hnode⟩ := ho a ha
  exact h node a hnode

theorem list (h : ∀ inner, levels = inner + 1 → StableAt inner d encode) :
    StableAt levels (.list d) fun as => .arr (as.map encode) := by
  intro node as hread
  obtain ⟨inner, rfl, hlist⟩ := forall_mem_of_list hread
  refine Accepts.listSelf fun a ha => ?_
  obtain ⟨n, hn⟩ := hlist a ha
  exact h inner rfl n a hn

theorem dict (h : ∀ inner, levels = inner + 1 → StableAt inner d encode) :
    StableAt levels (.dict d) fun as => .obj (as.entries.map fun e => (e.1, encode e.2)) := by
  intro node as hread
  obtain ⟨inner, rfl, hdict⟩ := forall_mem_of_dict hread
  refine Accepts.dict (f := id) (List.map_id _).symm fun e he => ?_
  obtain ⟨n, hn⟩ := hdict e he
  exact h inner rfl n e.2 hn

/-- Two alternatives, the first of which refuses what is written of the second. -/
theorem alternatives {γ : Type} {name : String} {d : Decoder β} {d' : Decoder γ} {left : β → α}
    {right : γ → α} (hleft : StableAt levels d fun b => encode (left b))
    (hright : StableAt levels d' fun c => encode (right c))
    (hrefused : ∀ c, (d levels (encode (right c)).toNode).toOption = none) :
    StableAt levels (.oneOf name [d.map left, d'.map right]) encode := by
  intro node a hread
  rcases eq_ok_of_oneOf_pair hread with hread | hread
  · obtain ⟨b, hb, rfl⟩ := eq_ok_of_map hread
    exact ((hleft node b hb).map left).oneOf_here _
  · obtain ⟨c, hc, rfl⟩ := eq_ok_of_map hread
    refine .oneOf_later ?_ (((hright node c hc).map right).oneOf_here _)
    rw [Decoder.map, toOption_map, hrefused c]
    rfl

end StableAt

end ApiOutline.Json
