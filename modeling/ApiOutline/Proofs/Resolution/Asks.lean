import ApiOutline.Resolution.Walk

/-!
# What walks ask for

A walk through a schema leaves open what following a reference means.  It has no other access to the document: all it
can do is to ask for one reference after the other and to make its value of the types that come back.

`Asks` says so.  A walk that asks for certain references hands just these to whatever follows references, in this order,
and does nothing to the state itself.  The relation composes, and each walk through a schema has one lemma that names its
references and its value.

* `Asks`: what a walk asks for and gives.
* `Asks.apply_noting`, `Asks.unique`: the references can be observed, so a walk asks for them only.
* `Asks.eq_followEach`: a walk as references that are followed one after the other.
* `asks_walkItems`, …, `asks_walkProperty`, `Scope.asks_walkModel`: the walks through schemas and definitions.
* `Scope.walkDefinition_eq`: the whole walk through a definition.
-/

namespace ApiOutline

/-! ## Walks that ask -/

/-- As long as references have the types `types`, the walk `w` asks for the references `rs`, one after the other, and
gives the value `a`, whatever following a reference does to the state. -/
inductive Asks {α : Type} (types : String → TypeExpr) :
    ((String → Walk TypeExpr) → Walk α) → α → List String → Prop where
  | done (a : α) : Asks types (fun _ => pure a) a []
  | ask (r : String) {next : TypeExpr → (String → Walk TypeExpr) → Walk α} {a : α} {rs : List String}
    (h : Asks types (next (types r)) a rs) :
    Asks types (fun follow => follow r >>= fun e => next e follow) a (r :: rs)

/-- The walk along references, one after the other. -/
def followEach (follow : String → Walk TypeExpr) (references : List String) : Walk Unit :=
  references.forM fun r => discard (follow r)

namespace Asks

variable {types : String → TypeExpr} {α β : Type}

/-! ## Composition -/

theorem follow (r : String) : Asks types (fun follow => follow r) (types r) [r] := by
  have h : Asks types (fun follow => follow r >>= fun e => pure e) (types r) [r] := ask r (done (types r))
  simpa only [bind_pure] using h

theorem bind {w : (String → Walk TypeExpr) → Walk α} {k : α → (String → Walk TypeExpr) → Walk β} {a : α} {b : β}
    {rs ss : List String} (hw : Asks types w a rs) (hk : Asks types (k a) b ss) :
    Asks types (fun follow => w follow >>= fun a => k a follow) b (rs ++ ss) := by
  induction hw with
  | done a => exact hk
  | ask r _ ih =>
    simp only [bind_assoc]
    exact ask r (ih hk)

theorem map (f : α → β) {w : (String → Walk TypeExpr) → Walk α} {a : α} {rs : List String} (hw : Asks types w a rs) :
    Asks types (fun follow => f <$> w follow) (f a) rs := by
  have h := hw.bind (k := fun a _ => pure (f a)) (done (f a))
  simpa only [← map_eq_pure_bind, List.append_nil] using h

theorem bind_pure (f : α → β) {w : (String → Walk TypeExpr) → Walk α} {a : α} {rs : List String}
    (hw : Asks types w a rs) : Asks types (fun follow => w follow >>= fun a => pure (f a)) (f a) rs := by
  simpa only [map_eq_pure_bind] using hw.map f

theorem mapM {f : α → (String → Walk TypeExpr) → Walk β} {g : α → β} {rs : α → List String} {l : List α}
    (h : ∀ a ∈ l, Asks types (f a) (g a) (rs a)) :
    Asks types (fun follow => l.mapM fun a => f a follow) (l.map g) (l.flatMap rs) := by
  induction l with
  | nil => exact done []
  | cons a l ih =>
    have hl := ih fun b hb => h b (List.mem_cons_of_mem _ hb)
    have hrest := hl.map (g a :: ·)
    simp only [List.mapM_cons, ← map_eq_pure_bind]
    exact (h a List.mem_cons_self).bind (k := fun b follow => (b :: ·) <$> l.mapM fun a => f a follow) hrest

/-! ## One reference after the other -/

/-- **A walk follows what it asks for, one reference after the other**, and gives its value in the end. -/
theorem eq_followEach {w : (String → Walk TypeExpr) → Walk α} {a : α} {rs : List String} (h : Asks types w a rs)
    {follow : String → Walk TypeExpr} (hfollow : ∀ r s, (follow r s).1 = types r) :
    w follow = (fun _ => a) <$> followEach follow rs := by
  induction h with
  | done a => rfl
  | @ask r next a rs _ ih =>
    funext s
    show next (follow r s).1 follow (follow r s).2 = _
    rw [hfollow, ih]
    rfl

/-! ## Observing what is asked for -/

/-- Following that only takes note of each reference. -/
def noting (types : String → TypeExpr) (r : String) : Walk TypeExpr := do
  modify (·.note (.unresolvedReference r r))
  return types r

/-- Where following takes note of each reference, a walk leaves a note for each that it asks for, and no other trace. -/
theorem apply_noting {w : (String → Walk TypeExpr) → Walk α} {a : α} {rs : List String} (h : Asks types w a rs)
    (s : Progress) :
    w (noting types) s =
      (a, { s with diagnostics := s.diagnostics ++ rs.map fun r => .unresolvedReference r r }) := by
  induction h generalizing s with
  | done a => simp only [List.map_nil, List.append_nil]; rfl
  | ask r _ ih =>
    refine (ih _).trans ?_
    simp only [Progress.note, List.map_cons, List.append_assoc, List.singleton_append]

/-- **What a walk asks for is determined.** -/
theorem unique {w : (String → Walk TypeExpr) → Walk α} {a b : α} {rs ss : List String} (hrs : Asks types w a rs)
    (hss : Asks types w b ss) : rs = ss := by
  have hnotes := (hrs.apply_noting .start).symm.trans (hss.apply_noting .start)
  have hmap := congrArg (fun p => p.2.diagnostics) hnotes
  simp only [List.append_cancel_left_eq] at hmap
  exact (List.map_inj_right fun r r' h => congrArg Diagnostic.subject h).mp hmap

end Asks

section

variable (d : Document)

/-! ## Schemas -/

theorem asks_walkHead (type format reference : Option String) :
    Asks d.referenceType (fun follow => walkHead follow type format reference) (d.itemsHead type format reference)
      (if (Builtin.ofDeclared? type format).isNone then reference.toList else []) := by
  unfold walkHead Document.itemsHead
  cases Builtin.ofDeclared? type format with
  | some b => exact .done _
  | none =>
    cases reference with
    | some r => exact .follow r
    | none => exact .done _

mutual

theorem asks_walkItems : ∀ schema : Schema, Asks d.referenceType (fun follow => walkItems follow schema)
    (d.itemsType schema) (itemsReferences schema)
  | ⟨reference, type, format, _, items, _, _, _⟩ => by
    simp only [walkItems, Document.itemsType, itemsReferences]
    exact (asks_walkHead d type format reference).bind (asks_walkInner _ items)

theorem asks_walkInner (e : TypeExpr) : ∀ items : Option Schema,
    Asks d.referenceType (fun follow => walkInner follow e items) (d.withInnerItems e items) (innerReferences items)
  | none => by
    simp only [walkInner, Document.withInnerItems, innerReferences]
    exact .done e
  | some inner => by
    simp only [walkInner, Document.withInnerItems, innerReferences, ← map_eq_pure_bind]
    exact (asks_walkItems inner).map e.withItems

end

theorem asks_walkObject (schema : Schema) :
    Asks d.referenceType (fun follow => walkObject follow schema) (d.objectType? schema) (objectReferences schema) := by
  unfold walkObject Document.objectType? objectReferences
  cases schema.type with
  | none => exact .done none
  | some type =>
    dsimp only
    cases Builtin.ofDeclared? (some type) schema.format with
    | none => exact .done none
    | some b => exact (asks_walkInner d _ schema.items).map some

theorem asks_walkSchema (schema : Schema) :
    Asks d.referenceType (fun follow => walkSchema follow schema) (d.schemaType? schema) (schemaReferences schema) := by
  unfold walkSchema Document.schemaType? schemaReferences
  cases schema.reference with
  | none => exact asks_walkObject d schema
  | some r => exact (Asks.follow r).map some

/-! ## Properties -/

theorem asks_walkDeclared (property : Schema) :
    Asks d.referenceType (fun follow => walkDeclared follow property) (d.declaredType property)
      (objectReferences property) :=
  (asks_walkObject d property).map (Option.getD · TypeExpr.any)

theorem asks_walkValues (owner : String) (additional : Additional Schema) :
    Asks d.referenceType (fun follow => walkValues follow owner additional) ()
      ((additional.schema?.map (valueReferences owner)).getD []) := by
  cases additional with
  | allowed b => exact .done ()
  | schema values =>
    simp only [walkValues, Additional.schema?, Option.map_some, Option.getD_some, valueReferences]
    cases (values.items.bind Schema.reference).or values.reference with
    | none => exact .done ()
    | some r =>
      by_cases h : refKey r = owner
      · simp only [h, if_true]
        exact .done ()
      · simp only [h, if_false]
        exact (Asks.follow r).map fun _ => ()

/-- The shape of a property that does not come down to its reference: a map before an array, an array
before its declared type. -/
theorem PropertyShape.of_eq_of_not_reference {owner : String} {property : Schema}
    (h : ∀ r, property.type = none → property.reference ≠ some r) :
    PropertyShape.of owner property =
      match permitted? property with
      | some additional => .map additional
      | none =>
        match property.items with
        | none => .declared
        | some items =>
          match items.reference with
          | some r => .arrayOf r
          | none => if items.type = some "any" then .arrayOfAny else .declared := by
  unfold PropertyShape.of permitted?
  split
  · next r htype hreference => exact absurd hreference (h r htype)
  · cases property.additional with
    | none => rfl
    | some additional =>
      cases additional with
      | allowed b => cases b <;> rfl
      | schema values => rfl

/-- The property of the definition `owner` holds what the shape says of it. -/
def PropertyShape.IsIn (owner : String) (property : Schema) : PropertyShape → Prop
  | self => ∃ r, property.reference = some r ∧ refKey r = owner
  | reference r => property.reference = some r
  | map additional => property.additional = some additional
  | arrayOf r => ∃ items, property.items = some items ∧ items.reference = some r
  | arrayOfAny | declared => True

theorem PropertyShape.isIn_of (owner : String) (property : Schema) : (of owner property).IsIn owner property := by
  unfold of
  split
  · next r _ hreference =>
    split
    · next hself => exact ⟨r, hreference, hself⟩
    · exact hreference
  · split
    · next hadditional => exact hadditional
    · next hadditional => exact hadditional
    · split
      · trivial
      · next items hitems =>
        split
        · next r hreference => exact ⟨items, hitems, hreference⟩
        · split <;> trivial

/-- **What the walk through a property asks for.** -/
theorem asks_walkProperty (owner : String) (generic : Option GenericKey) (property : Schema) :
    Asks d.referenceType (fun follow => walkProperty follow owner generic property)
      (d.propertyType owner generic property) (propertyReferences owner generic.isSome property) := by
  by_cases h : ∃ r, property.type = none ∧ property.reference = some r
  · obtain ⟨r, htype, hreference⟩ := h
    simp only [walkProperty, Document.propertyType, propertyReferences, PropertyShape.of, htype,
      hreference]
    by_cases hself : refKey r = owner
    · simp only [hself, if_true]
      exact .done _
    · simp only [hself, if_false]
      exact (Asks.follow r).map _
  · have hnot : ∀ r, property.type = none → property.reference ≠ some r :=
      fun r htype hreference => h ⟨r, htype, hreference⟩
    unfold walkProperty Document.propertyType propertyReferences
    rw [PropertyShape.of_eq_of_not_reference hnot]
    split
    · next r htype hreference => exact absurd hreference (hnot r htype)
    cases permitted? property with
    | some additional =>
      refine (asks_walkValues d owner additional).bind ?_
      cases generic with
      | none => exact asks_walkDeclared d property
      | some g => exact .done _
    | none =>
      cases property.items with
      | none => exact asks_walkDeclared d property
      | some items =>
        dsimp only
        cases items.reference with
        | some r => exact (Asks.follow r).map _
        | none =>
          by_cases hany : items.type = some "any"
          · cases generic with
            | none => simpa [hany] using asks_walkDeclared d property
            | some g => simpa [hany] using Asks.done _
          · simpa [hany] using asks_walkDeclared d property

/-! ## Definitions -/

theorem isSome_ofKey? (key : String) : (GenericKey.ofKey? key).isSome = isGenericKey key := by
  unfold GenericKey.ofKey?
  cases isGenericKey key <;> rfl

theorem Scope.asks_walkModel (scope : Scope) (key : String) (definition : Schema) :
    Asks scope.document.referenceType (fun follow => scope.walkModel follow key definition)
      (scope.model key definition) (memberReferences key definition) := by
  unfold Scope.walkModel Scope.model memberReferences
  refine (Asks.mapM fun p _ => ?_).bind_pure _
  have hproperty := asks_walkProperty scope.document key (GenericKey.ofKey? key) p.2
  rw [isSome_ofKey?] at hproperty
  exact hproperty.bind_pure _

end

namespace Scope

variable (scope : Scope) (follow : String → Walk TypeExpr) (key : String) (definition : Schema)

/-- The walk through a definition up to its type arguments, along the references of its properties. -/
def walkMembers : Walk Unit := do
  modify (·.enter key)
  followEach follow (memberReferences key definition)
  modify (·.leave key)
  unless Builtin.isName (modelName key) do
    modify (·.register (scope.model key definition))

/-- **The walk through a definition, reference by reference.**  Whatever following a reference does to the state, the
references of the properties are followed one after the other, the model is registered, and the type arguments are
followed one after the other. -/
theorem walkDefinition_eq (hfollow : ∀ r s, (follow r s).1 = scope.document.referenceType r) :
    scope.walkDefinition follow key definition = (do
      scope.walkMembers follow key definition
      followEach follow ((scope.document.argumentKeys key).map (definitionsHead ++ ·))) := by
  have hargs : (scope.document.argumentKeys key).forM (fun name => discard (follow (definitionsHead ++ name))) =
      followEach follow ((scope.document.argumentKeys key).map (definitionsHead ++ ·)) := by
    rw [followEach, List.forM_eq_forM, List.forM_map]
  have hmodel := (scope.asks_walkModel key definition).eq_followEach hfollow
  have hname : (scope.model key definition).name = modelName key := rfl
  simp only [walkDefinition, walkMembers, hmodel, map_eq_pure_bind, bind_assoc, pure_bind, hname, hargs]
  cases Builtin.isName (modelName key) <;> rfl

end Scope

end ApiOutline
