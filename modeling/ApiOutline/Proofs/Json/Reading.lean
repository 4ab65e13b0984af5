import ApiOutline.Proofs.Json.Printed

/-!
# Reading printed values

A printed value is read as the tree of that value.  The tokens of a value, wherever they stand, take the reader from
where a value is due to where a separator is due, and whatever follows is read as after any other value.

* `Json.toNode`: the tree of a value.
* `Reading.assemble_tokens`: the tokens of a value, wherever they stand.
* `Json.ofSymbols_compact`, `Json.ofSymbols_pretty`: the two printed forms.
-/

namespace ApiOutline

namespace Json

open Text

/-! ## Trees of values -/

mutual

/-- The tree of a value. -/
def toNode : Json → Node
  | null => .null
  | bool b => .bool b
  | nat n => .number ⟨false, Nat.toDigits 10 n, [], none⟩
  | str s => .text s
  | arr vs => .array (toNodes vs) .closed
  | obj ms => .object (toMembers ms) .closed

/-- The trees of items. -/
def toNodes : List Json → List Node
  | [] => []
  | v :: vs => toNode v :: toNodes vs

/-- The members of an object, with the trees of their values. -/
def toMembers : List (String × Json) → List (Except Fault String × Node)
  | [] => []
  | (k, v) :: ms => (.ok k, toNode v) :: toMembers ms

end

namespace Reading

variable {open_ : List Container} {rest : List Token}

/-- The first item of an array is read like any value. -/
theorem assemble_items_tokens (v : Json) :
    assemble open_ .items (v.tokens ++ rest) = assemble (.array [] :: open_) .value (v.tokens ++ rest) := by
  cases v with
  | null => rfl
  | bool b => rfl
  | nat n => rfl
  | str s => rfl
  | arr vs => cases vs <;> rfl
  | obj ms => cases ms <;> rfl

theorem assemble_value_openArray (ts : List Token) :
    assemble open_ .value (.openArray :: ts) = assemble open_ .items ts := by
  cases open_ <;> rfl

theorem assemble_value_member (k : String) (ts : List Token) :
    assemble open_ .value (.openObject :: .text k :: .colon :: ts) =
      assemble (.object [] (.ok k) :: open_) .value ts := by
  cases open_ <;> rfl

mutual

/-- **The tokens of a value are read as its tree.** -/
theorem assemble_tokens (open_ : List Container) (rest : List Token) : ∀ v : Json,
    assemble open_ .value (v.tokens ++ rest) = assemble open_ (.separator v.toNode) rest
  | null => by cases open_ <;> rfl
  | bool b => by cases open_ <;> rfl
  | nat n => by cases open_ <;> rfl
  | str s => by cases open_ <;> rfl
  | arr [] => by cases open_ <;> rfl
  | arr (v :: vs) => by
    rw [tokens, List.cons_append, List.append_assoc, assemble_value_openArray, assemble_items_tokens,
      assemble_tokens (.array [] :: open_) _ v, List.append_assoc, assemble_moreTokens [] _ open_ rest vs]
    rfl
  | obj [] => by cases open_ <;> rfl
  | obj ((k, v) :: ms) => by
    rw [tokens, List.cons_append, List.cons_append, List.cons_append, List.append_assoc,
      assemble_value_member, assemble_tokens (.object [] (.ok k) :: open_) _ v, List.append_assoc,
      assemble_moreMemberTokens [] k _ open_ rest ms]
    rfl

/-- Further items, up to the end of the array. -/
theorem assemble_moreTokens (items : List Node) (node : Node) (open_ : List Container)
    (rest : List Token) : ∀ vs : List Json,
    assemble (.array items :: open_) (.separator node) (moreTokens vs ++ (.closeArray :: [] ++ rest)) =
      assemble open_ (.separator (.array (items.reverse ++ node :: toNodes vs) .closed)) rest
  | [] => by
    show assemble open_ (.separator (Container.close node .closed (.array items))) rest = _
    rw [Container.close, List.reverse_cons, toNodes]
  | v :: vs => by
    show assemble (.array (node :: items) :: open_) .value ((v.tokens ++ moreTokens vs) ++ _) = _
    rw [List.append_assoc, assemble_tokens (.array (node :: items) :: open_) _ v,
      assemble_moreTokens (node :: items) _ open_ rest vs, toNodes, List.reverse_cons, List.append_assoc,
      List.singleton_append]

/-- Further members, up to the end of the object. -/
theorem assemble_moreMemberTokens (members : List (Except Fault String × Node)) (key : String)
    (node : Node) (open_ : List Container) (rest : List Token) : ∀ ms : List (String × Json),
    assemble (.object members (.ok key) :: open_) (.separator node)
        (moreMemberTokens ms ++ (.closeObject :: [] ++ rest)) =
      assemble open_ (.separator (.object (members.reverse ++ (.ok key, node) :: toMembers ms) .closed)) rest
  | [] => by
    show assemble open_ (.separator (Container.close node .closed (.object members (.ok key)))) rest = _
    rw [Container.close, List.reverse_cons, toMembers]
  | (k, v) :: ms => by
    show assemble (.object ((.ok key, node) :: members) (.ok k) :: open_) .value
      ((v.tokens ++ moreMemberTokens ms) ++ _) = _
    rw [List.append_assoc, assemble_tokens (.object ((.ok key, node) :: members) (.ok k) :: open_) _ v,
      assemble_moreMemberTokens ((.ok key, node) :: members) k _ open_ rest ms, toMembers,
      List.reverse_cons, List.append_assoc, List.singleton_append]

end

theorem ofTokens_tokens (v : Json) : ofTokens v.tokens = ⟨v.toNode, false⟩ := by
  have h := assemble_tokens [] [] v
  rw [List.append_nil] at h
  rw [ofTokens, h]
  rfl

end Reading

/-- **A value printed compactly is read as its own tree**, and nothing follows it. -/
theorem ofSymbols_compact (v : Json) :
    Reading.ofSymbols (symbolsOfText v.compact) = ⟨v.toNode, false⟩ := by
  rw [symbolsOfText, toList_compact 0, Reading.ofSymbols, scan_layOut, Reading.ofTokens_tokens]

/-- **A value printed over several lines is read as its own tree**, and nothing follows it. -/
theorem ofSymbols_pretty (v : Json) : Reading.ofSymbols (symbolsOfText v.pretty) = ⟨v.toNode, false⟩ := by
  rw [symbolsOfText, pretty, toList_prettyAt, Reading.ofSymbols, scan_layOut, Reading.ofTokens_tokens]

end Json

end ApiOutline
