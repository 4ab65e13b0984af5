import ApiOutline.Json.Decoder
import ApiOutline.Proofs.Json.Reading

/-!
# Decoders and the values they accept

A decoder accepts a value as something of its own type if the value is not nested too deeply and its tree is decoded
to that.  Accepting goes along with the way decoders are put together: what the parts accept, the whole accepts.

* `Json.Fits`: the values that can be read within some levels of containers.
* `Decoder.Accepts`: the values that a decoder accepts.
* `Accepts.list`, `Accepts.dict`, `accepts_variant`, `Accepts.oneOf_here`, `Accepts.oneOf_later`: decoders that are
  put together.
* `Accepts.decode_compact`, `Accepts.decode_pretty`: what is accepted is decoded from its printed forms.
-/

namespace ApiOutline.Json

open Text

/-! ## Values that can be read -/

/-- The values that can be read when so many levels of containers may be opened. -/
inductive Fits : Nat → Json → Prop where
  | null {levels : Nat} : Fits levels .null
  | bool {levels : Nat} {b : Bool} : Fits levels (.bool b)
  | nat {levels n : Nat} (h : n ≤ Numeral.wordMax) : Fits levels (.nat n)
  | str {levels : Nat} {s : String} : Fits levels (.str s)
  | arr {levels : Nat} {vs : List Json} (h : ∀ v ∈ vs, Fits levels v) : Fits (levels + 1) (.arr vs)
  | obj {levels : Nat} {ms : List (String × Json)} (h : ∀ m ∈ ms, Fits levels m.2) :
    Fits (levels + 1) (.obj ms)

theorem naturalOf_toDigits (n : Nat) : naturalOf (Nat.toDigits 10 n) = n :=
  Decimal.valueOf_toDigits n

theorem value_toDigits {n : Nat} (h : n ≤ Numeral.wordMax) :
    Numeral.value ⟨false, Nat.toDigits 10 n, [], none⟩ = .natural n := by
  simp [Numeral.value, naturalOf_toDigits, h]

theorem readFaultItems?_toNodes {levels : Nat} {vs : List Json}
    (h : ∀ v ∈ vs, v.toNode.readFault? levels = none) : readFaultItems? levels (toNodes vs) = none := by
  induction vs with
  | nil => rfl
  | cons v vs ih =>
    obtain ⟨hv, hvs⟩ := List.forall_mem_cons.mp h
    rw [toNodes, readFaultItems?, hv, ih hvs]
    rfl

theorem readFaultMembers?_toMembers {levels : Nat} {ms : List (String × Json)}
    (h : ∀ m ∈ ms, m.2.toNode.readFault? levels = none) :
    readFaultMembers? levels (toMembers ms) = none := by
  induction ms with
  | nil => rfl
  | cons m ms ih =>
    obtain ⟨hm, hms⟩ := List.forall_mem_cons.mp h
    rw [toMembers, readFaultMembers?, hm, ih hms]
    rfl

/-- One who reads all of a value that can be read meets no fault. -/
theorem Fits.readFault?_toNode {levels : Nat} {v : Json} (h : Fits levels v) :
    v.toNode.readFault? levels = none := by
  induction h with
  | null => rfl
  | bool => rfl
  | nat hn => simp [toNode, Node.readFault?, Numeral.fault?, value_toDigits hn]
  | str => rfl
  | arr _ ih => simp [toNode, Node.readFault?, readFaultItems?_toNodes ih, Ending.fault?]
  | obj _ ih => simp [toNode, Node.readFault?, readFaultMembers?_toMembers ih, Ending.fault?]

/-! ## Decoders -/

namespace Decoder

variable {α β : Type} {d : Decoder α} {levels : Nat} {v : Json} {a : α}

/-- The decoder accepts the value as `a`, when so many levels of containers may be opened. -/
structure Accepts (d : Decoder α) (levels : Nat) (v : Json) (a : α) : Prop where
  fits : v.Fits levels
  decodes : d levels v.toNode = .ok a

theorem accepts_text {s : String} : Accepts text levels (.str s) s := ⟨.str, rfl⟩

theorem accepts_bool {b : Bool} : Accepts bool levels (.bool b) b := ⟨.bool, rfl⟩

theorem accepts_null : Accepts d.optional levels .null none := ⟨.null, rfl⟩

theorem accepts_variant {variants : List (String × α)} {name : String}
    (h : variants.lookup name = some a) : Accepts (variant variants) levels (.str name) a where
  fits := .str
  decodes := by
    show named variants name = _
    rw [named, h]

namespace Accepts

theorem map (h : Accepts d levels v a) (f : α → β) : Accepts (d.map f) levels v (f a) where
  fits := h.fits
  decodes := by
    rw [Decoder.map, h.decodes]
    rfl

theorem optional (h : Accepts d levels v a) (hv : v ≠ .null) : Accepts d.optional levels v (some a) where
  fits := h.fits
  decodes := by
    have hdecodes : d.optional levels v.toNode = (d levels v.toNode).map some := by
      cases v with
      | null => exact absurd rfl hv
      | _ => rfl
    rw [hdecodes, h.decodes]
    rfl

/-! ## Lists and dictionaries -/

theorem items {vs : List β} {encode : β → Json} {f : β → α}
    (h : ∀ b ∈ vs, Accepts d levels (encode b) (f b)) :
    Decoder.items (d levels) (toNodes (vs.map encode)) = .ok (vs.map f) := by
  induction vs with
  | nil => rfl
  | cons b vs ih =>
    obtain ⟨hb, hvs⟩ := List.forall_mem_cons.mp h
    rw [List.map_cons, toNodes, Decoder.items, hb.decodes, ih hvs]
    rfl

/-- A list decoder accepts lists of what the decoder of their items accepts. -/
theorem list {vs : List β} {encode : β → Json} {f : β → α}
    (h : ∀ b ∈ vs, Accepts d levels (encode b) (f b)) :
    Accepts (.list d) (levels + 1) (.arr (vs.map encode)) (vs.map f) where
  fits := .arr fun v hv => by
    obtain ⟨b, hb, rfl⟩ := List.mem_map.mp hv
    exact (h b hb).fits
  decodes := by
    show (Decoder.items (d levels) (toNodes (vs.map encode)) >>= _) = _
    rw [items h]
    rfl

/-- A list of what is accepted as itself. -/
theorem listSelf {vs : List α} {encode : α → Json} (h : ∀ a ∈ vs, Accepts d levels (encode a) a) :
    Accepts (.list d) (levels + 1) (.arr (vs.map encode)) vs := by
  have hlist := list (f := id) h
  rwa [List.map_id] at hlist

theorem strs {texts : List String} : Accepts (.list text) (levels + 1) (strs texts) texts :=
  listSelf fun _ _ => accepts_text

theorem members {es : List (String × β)} {encode : β → Json} {f : β → α}
    (h : ∀ e ∈ es, Accepts d levels (encode e.2) (f e.2)) (before : Dict α)
    (hkeys : (keysOf before.entries ++ keysOf es).Nodup) :
    ∃ result, Decoder.members (d levels) before (toMembers (es.map fun e => (e.1, encode e.2))) =
        .ok result ∧ result.entries = before.entries ++ es.map fun e => (e.1, f e.2) := by
  induction es generalizing before with
  | nil => exact ⟨before, rfl, (List.append_nil _).symm⟩
  | cons e es ih =>
    obtain ⟨he, hes⟩ := List.forall_mem_cons.mp h
    have hnew : (before.insert e.1 (f e.2)).entries = before.entries ++ [(e.1, f e.2)] := by
      refine upsert_of_notMem fun hmem => ?_
      exact (List.nodup_append.mp hkeys).2.2 _ hmem _ List.mem_cons_self rfl
    obtain ⟨result, hresult, hentries⟩ := ih hes (before.insert e.1 (f e.2)) (by
      rw [hnew]
      simpa [keysOf] using hkeys)
    refine ⟨result, ?_, by rw [hentries, hnew]; simp⟩
    rw [List.map_cons, toMembers, Decoder.members, he.decodes]
    exact hresult

/-- A dictionary decoder accepts objects of what the decoder of their values accepts. -/
theorem dict {es : List (String × β)} {encode : β → Json} {f : β → α} {result : Dict α}
    (hresult : result.entries = es.map fun e => (e.1, f e.2))
    (h : ∀ e ∈ es, Accepts d levels (encode e.2) (f e.2)) :
    Accepts (.dict d) (levels + 1) (.obj (es.map fun e => (e.1, encode e.2))) result where
  fits := .obj fun m hm => by
    obtain ⟨e, he, rfl⟩ := List.mem_map.mp hm
    exact (h e he).fits
  decodes := by
    have hkeys := result.nodup
    rw [hresult] at hkeys
    obtain ⟨found, hfound, hentries⟩ := members h .empty (by
      simpa [keysOf, Dict.empty, Function.comp_def] using hkeys)
    obtain rfl : found = result := Dict.eq_of_entries (hentries.trans hresult.symm)
    show (Decoder.members (d levels) .empty _ >>= _) = _
    rw [hfound]
    rfl

/-! ## Alternatives -/

theorem oneOf_here {name : String} (h : Accepts d levels v a) (ds : List (Decoder α)) :
    Accepts (.oneOf name (d :: ds)) levels v a where
  fits := h.fits
  decodes := by
    rw [oneOf, h.fits.readFault?_toNode, List.findSome?_cons, h.decodes]
    rfl

theorem oneOf_later {name : String} {d' : Decoder α} {ds : List (Decoder α)}
    (hd : (d' levels v.toNode).toOption = none) (h : Accepts (.oneOf name ds) levels v a) :
    Accepts (.oneOf name (d' :: ds)) levels v a where
  fits := h.fits
  decodes := by
    have hds := h.decodes
    rw [oneOf, h.fits.readFault?_toNode] at hds ⊢
    rw [List.findSome?_cons, hd]
    exact hds

/-! ## Printed values -/

theorem decode_of_ofSymbols {text : List Symbol} (h : Accepts d levelLimit v a)
    (htext : Reading.ofSymbols text = ⟨v.toNode, false⟩) : d.decode text = .ok a := by
  rw [decode, htext]
  show (d levelLimit v.toNode >>= _) = _
  rw [h.decodes]
  rfl

/-- **What a decoder accepts is decoded from its compact form.** -/
theorem decode_compact (h : Accepts d levelLimit v a) : d.decode (symbolsOfText v.compact) = .ok a :=
  h.decode_of_ofSymbols (ofSymbols_compact v)

/-- **What a decoder accepts is decoded from its form over several lines.** -/
theorem decode_pretty (h : Accepts d levelLimit v a) : d.decode (symbolsOfText v.pretty) = .ok a :=
  h.decode_of_ofSymbols (ofSymbols_pretty v)

end Accepts

end Decoder

end ApiOutline.Json
