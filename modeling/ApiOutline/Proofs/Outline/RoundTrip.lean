import ApiOutline.Outline.Codec
import ApiOutline.Proofs.Json.Record
import ApiOutline.Proofs.TypeExpr.RoundTrip

/-!
# Reading outlines back

The written form of an outline, in either layout, is read as that outline with every type respelled: written as a
text and read again.  Types are the only part of an outline that is written in another form than it has.  A type that
was read once is canonical, so nothing changes any more after the first reading.

* `Outline.mapTypes`: an outline with its types replaced.
* `Outline.accepts_encode`: what the written form of an outline is read as.
* `Outline.IsCanonical`, `Outline.isCanonical_of_decode`: outlines that have been read.
* `Outline.decode_print`: the main statement.
-/

namespace ApiOutline

open Json Decoder

/-! ## Replacing types -/

/-- A type written as a text and read again. -/
def TypeExpr.reread (e : TypeExpr) : TypeExpr :=
  parse none (render none e)

/-- A property with its type replaced. -/
def Property.mapType (f : TypeExpr → TypeExpr) (p : Property) : Property :=
  { p with type := f p.type }

/-- A model with its types replaced. -/
def Model.mapTypes (f : TypeExpr → TypeExpr) (m : Model) : Model :=
  { m with properties := m.properties.map (Property.mapType f) }

/-- An endpoint with its types replaced. -/
def Endpoint.mapTypes (f : TypeExpr → TypeExpr) (e : Endpoint) : Endpoint :=
  { e with
    paramsType := e.paramsType.map f
    dataType := e.dataType.map f
    returnType := f e.returnType }

/-- An outline with its types replaced. -/
def Outline.mapTypes (f : TypeExpr → TypeExpr) (o : Outline) : Outline :=
  { o with
    endpoints := o.endpoints.map (Endpoint.mapTypes f)
    models := o.models.map (Model.mapTypes f) }

/-! ## What written forms are read as -/

variable {levels : Nat}

theorem TypeExpr.accepts_encode (e : TypeExpr) : Accepts TypeExpr.decoder levels e.encode e.reread :=
  accepts_text.map (parse none)

theorem Property.accepts_encode (p : Property) :
    Accepts Property.decoder (levels + 1) p.encode (p.mapType TypeExpr.reread) := by
  refine Written.accepts (.of_append_nil ?_) (by decide)
  simp only [members, List.append_assoc]
  exact .needed accepts_text <| .optionalText rfl <| .needed p.type.accepts_encode <|
    .spare accepts_bool .nil

theorem Model.accepts_encode (m : Model) :
    Accepts Model.decoder (levels + 3) m.encode (m.mapTypes TypeExpr.reread) := by
  have hproperties : Accepts (.list Property.decoder) (levels + 2) (.arr (m.properties.map Property.encode))
      (m.properties.map (Property.mapType TypeExpr.reread)) := .list fun p _ => p.accepts_encode
  refine Written.accepts (.of_append_nil ?_) (by decide)
  simp only [membersWith, List.append_assoc]
  exact .needed accepts_text <| .needed accepts_text <| .optionalText rfl <| .needed hproperties .nil

theorem lookup_variants_code (c : DiagnosticCode) : DiagnosticCode.variants.lookup c.name = some c := by
  cases c <;> decide

theorem Diagnostic.accepts_encode (x : Diagnostic) : Accepts Diagnostic.decoder (levels + 1) x.encode x := by
  refine Written.accepts (.of_append_nil ?_) (by decide)
  simp only [List.append_assoc]
  exact .needed accepts_text <| .needed (accepts_variant (lookup_variants_code x.code)) <|
    .needed accepts_text .nil

theorem lookup_variants_style (s : CallStyle) : CallStyle.variants.lookup s.name = some s := by
  cases s with
  | verb v => cases v <;> decide
  | download => decide

theorem Endpoint.accepts_encode (e : Endpoint) :
    Accepts Endpoint.decoder (levels + 1) e.encode (e.mapTypes TypeExpr.reread) := by
  have htype : ∀ (o : Option TypeExpr) (t : TypeExpr), o = some t →
      Accepts TypeExpr.decoder levels t.encode t.reread := fun _ t _ => t.accepts_encode
  have hbool : ∀ (o : Option Bool) (b : Bool), o = some b → Accepts Decoder.bool levels (.bool b) b :=
    fun _ _ _ => accepts_bool
  refine Written.accepts (.of_append_nil ?_) (by decide)
  simp only [List.append_assoc]
  exact .needed accepts_text <| .needed accepts_text <|
    .needed (accepts_variant (lookup_variants_style e.style)) <| .needed accepts_text <|
    .needed accepts_text <| .optionalText rfl <|
    .optionalMap (htype _) (fun _ => Json.noConfusion) rfl <|
    .optional (hbool _) (fun _ => Json.noConfusion) rfl <|
    .optionalMap (htype _) (fun _ => Json.noConfusion) rfl <|
    .optional (hbool _) (fun _ => Json.noConfusion) rfl <|
    .needed e.returnType.accepts_encode <| .needed accepts_bool <| .needed accepts_bool <|
    .needed accepts_bool .nil

/-! ## Sets of names -/

theorem insertSorted_of_forall_lt {name : String} {α : Type} {value : α} {pairs : List (String × α)}
    (h : ∀ p ∈ pairs, p.1 < name) : insertSorted name value pairs = pairs ++ [(name, value)] := by
  induction pairs with
  | nil => rfl
  | cons p pairs ih =>
    obtain ⟨hp, hpairs⟩ := List.forall_mem_cons.mp h
    rw [insertSorted, if_neg fun hlt => String.lt_asymm hp hlt, if_pos hp, ih hpairs, List.cons_append]

/-- Entries put in in ascending order stand behind each other. -/
theorem entries_foldl_insert {α : Type} {pairs : List (String × α)} {before : NameMap α}
    (h : Ascending (before.entries ++ pairs)) :
    (pairs.foldl (fun m p => m.insert p.1 p.2) before).entries = before.entries ++ pairs := by
  induction pairs generalizing before with
  | nil => exact (List.append_nil _).symm
  | cons p pairs ih =>
    have hinsert : (before.insert p.1 p.2).entries = before.entries ++ [p] :=
      insertSorted_of_forall_lt fun q hq =>
        (List.pairwise_append.mp h).2.2 q hq p List.mem_cons_self
    rw [List.foldl_cons, ih (by rw [hinsert]; simpa using h), hinsert]
    simp

/-- A set of names is the set of its names. -/
theorem NameSet.ofNames_names (names : NameSet) : NameSet.ofNames names.names = names := by
  have hentries : names.names.map (fun n => (n, ())) = names.entries := by
    simp [NameMap.names, Function.comp_def]
  have h : (names.entries.foldl (fun m p => m.insert p.1 p.2) NameMap.empty).entries = names.entries :=
    entries_foldl_insert names.ascending
  rw [ofNames, hentries, NameMap.ofList]
  exact NameMap.eq_of_entries h

namespace Outline

/-- **What the written form of an outline is read as.** -/
theorem accepts_encode (o : Outline) :
    Accepts Outline.decoder (levels + 5) o.encode (o.mapTypes TypeExpr.reread) := by
  have hhash : ∀ c, o.documentHash = some c → Accepts Checksum.decoder (levels + 4) c.encode c :=
    fun _ _ => accepts_text.map Checksum.mk
  have hendpoints : Accepts (.list Endpoint.decoder) (levels + 4) (.arr (o.endpoints.map Endpoint.encode))
      (o.endpoints.map (Endpoint.mapTypes TypeExpr.reread)) := .list fun e _ => e.accepts_encode
  have hmodels : Accepts (.list Model.decoder) (levels + 4) (.arr (o.models.map Model.encode))
      (o.models.map (Model.mapTypes TypeExpr.reread)) := .list fun m _ => m.accepts_encode
  have hdiagnostics : Accepts (.list Diagnostic.decoder) (levels + 4)
      (.arr (o.diagnostics.map Diagnostic.encode)) o.diagnostics := .listSelf fun x _ => x.accepts_encode
  have hgroups : o.mapTypes TypeExpr.reread =
      { o.mapTypes TypeExpr.reread with groups := NameSet.ofNames o.groups.names } := by
    rw [NameSet.ofNames_names]
    rfl
  rw [hgroups]
  refine Written.accepts (.of_append_nil ?_) (by decide)
  simp only [List.append_assoc]
  exact .optional hhash (fun _ => Json.noConfusion) rfl <| .optionalText rfl <| .needed .strs <|
    .needed hendpoints <| .needed hmodels <| .spare hdiagnostics .nil

end Outline

/-! ## Outlines that have been read -/

namespace TypeExpr

theorem canonical_of_decode {node : Node} {e : TypeExpr} (h : TypeExpr.decoder levels node = .ok e) :
    Canonical none e := by
  obtain ⟨s, -, rfl⟩ := eq_ok_of_map h
  exact canonical_parse isReadable_none s

end TypeExpr

/-- The property has a canonical type. -/
def Property.IsCanonical (p : Property) : Prop :=
  TypeExpr.Canonical none p.type

/-- The types of the model are canonical. -/
def Model.IsCanonical (m : Model) : Prop :=
  ∀ p ∈ m.properties, p.IsCanonical

/-- The types of the endpoint are canonical. -/
structure Endpoint.IsCanonical (e : Endpoint) : Prop where
  params : ∀ t, e.paramsType = some t → TypeExpr.Canonical none t
  data : ∀ t, e.dataType = some t → TypeExpr.Canonical none t
  returned : TypeExpr.Canonical none e.returnType

/-- The types of the outline are canonical. -/
structure Outline.IsCanonical (o : Outline) : Prop where
  endpoints : ∀ e ∈ o.endpoints, e.IsCanonical
  models : ∀ m ∈ o.models, m.IsCanonical

theorem Property.keeps_isCanonical : record.Keeps levels IsCanonical where
  blank := .scalar rfl
  fields := by
    simp only [record, List.forall_mem_cons]
    refine ⟨?_, ?_, ?_, ?_, fun _ h => absurd h List.not_mem_nil⟩
    · exact Field.keeps_needed fun _ _ _ _ hp => hp
    · exact Field.keeps_optional fun _ _ _ hp => hp
    · exact Field.keeps_needed fun _ _ he _ _ => TypeExpr.canonical_of_decode he
    · exact Field.keeps_spare fun _ _ _ _ hp => hp

theorem Property.isCanonical_of_decode {node : Node} {p : Property}
    (h : Property.decoder levels node = .ok p) : p.IsCanonical :=
  Record.holds_of_decoder (fun _ => keeps_isCanonical) h

theorem Model.keeps_isCanonical : record.Keeps levels IsCanonical where
  blank := fun _ hp => absurd hp List.not_mem_nil
  fields := by
    simp only [record, List.forall_mem_cons]
    refine ⟨?_, ?_, ?_, ?_, fun _ h => absurd h List.not_mem_nil⟩
    · exact Field.keeps_needed fun _ _ _ _ hm => hm
    · exact Field.keeps_needed fun _ _ _ _ hm => hm
    · exact Field.keeps_optional fun _ _ _ hm => hm
    · refine Field.keeps_needed fun _ ps hps _ _ p hp => ?_
      obtain ⟨_, -, hlist⟩ := forall_mem_of_list hps
      obtain ⟨_, hdecoded⟩ := hlist p hp
      exact Property.isCanonical_of_decode hdecoded

theorem Model.isCanonical_of_decode {node : Node} {m : Model} (h : Model.decoder levels node = .ok m) :
    m.IsCanonical :=
  Record.holds_of_decoder (fun _ => keeps_isCanonical) h

theorem Endpoint.keeps_isCanonical : record.Keeps levels IsCanonical where
  blank := ⟨fun _ h => absurd h (by simp [record]), fun _ h => absurd h (by simp [record]), .scalar rfl⟩
  fields := by
    have htype : ∀ o : Option TypeExpr, (∀ t, o = some t → ∃ node, TypeExpr.decoder levels node = .ok t) →
        ∀ t, o = some t → TypeExpr.Canonical none t := fun o ho t ht => by
      obtain ⟨_, hdecoded⟩ := ho t ht
      exact TypeExpr.canonical_of_decode hdecoded
    simp only [record, List.forall_mem_cons]
    refine ⟨?_, ?_, ?_, ?_, ?_, ?_, ?_, ?_, ?_, ?_, ?_, ?_, ?_, ?_, fun _ h => absurd h List.not_mem_nil⟩
    · exact Field.keeps_needed fun _ _ _ _ he => ⟨he.params, he.data, he.returned⟩
    · exact Field.keeps_needed fun _ _ _ _ he => ⟨he.params, he.data, he.returned⟩
    · exact Field.keeps_needed fun _ _ _ _ he => ⟨he.params, he.data, he.returned⟩
    · exact Field.keeps_needed fun _ _ _ _ he => ⟨he.params, he.data, he.returned⟩
    · exact Field.keeps_needed fun _ _ _ _ he => ⟨he.params, he.data, he.returned⟩
    · exact Field.keeps_optional fun _ _ _ he => ⟨he.params, he.data, he.returned⟩
    · exact Field.keeps_optional fun o ho _ he => ⟨htype o ho, he.data, he.returned⟩
    · exact Field.keeps_optional fun _ _ _ he => ⟨he.params, he.data, he.returned⟩
    · exact Field.keeps_optional fun o ho _ he => ⟨he.params, htype o ho, he.returned⟩
    · exact Field.keeps_optional fun _ _ _ he => ⟨he.params, he.data, he.returned⟩
    · exact Field.keeps_needed fun _ _ ht _ he => ⟨he.params, he.data, TypeExpr.canonical_of_decode ht⟩
    · exact Field.keeps_needed fun _ _ _ _ he => ⟨he.params, he.data, he.returned⟩
    · exact Field.keeps_needed fun _ _ _ _ he => ⟨he.params, he.data, he.returned⟩
    · exact Field.keeps_needed fun _ _ _ _ he => ⟨he.params, he.data, he.returned⟩

theorem Endpoint.isCanonical_of_decode {node : Node} {e : Endpoint}
    (h : Endpoint.decoder levels node = .ok e) : e.IsCanonical :=
  Record.holds_of_decoder (fun _ => keeps_isCanonical) h

theorem Outline.keeps_isCanonical : record.Keeps levels IsCanonical where
  blank := ⟨fun _ h => absurd h List.not_mem_nil, fun _ h => absurd h List.not_mem_nil⟩
  fields := by
    simp only [record, List.forall_mem_cons]
    refine ⟨?_, ?_, ?_, ?_, ?_, ?_, fun _ h => absurd h List.not_mem_nil⟩
    · exact Field.keeps_optional fun _ _ _ ho => ⟨ho.endpoints, ho.models⟩
    · exact Field.keeps_optional fun _ _ _ ho => ⟨ho.endpoints, ho.models⟩
    · exact Field.keeps_needed fun _ _ _ _ ho => ⟨ho.endpoints, ho.models⟩
    · refine Field.keeps_needed fun _ es hes _ ho => ⟨fun e he => ?_, ho.models⟩
      obtain ⟨_, -, hlist⟩ := forall_mem_of_list hes
      obtain ⟨_, hdecoded⟩ := hlist e he
      exact Endpoint.isCanonical_of_decode hdecoded
    · refine Field.keeps_needed fun _ ms hms _ ho => ⟨ho.endpoints, fun m hm => ?_⟩
      obtain ⟨_, -, hlist⟩ := forall_mem_of_list hms
      obtain ⟨_, hdecoded⟩ := hlist m hm
      exact Model.isCanonical_of_decode hdecoded
    · exact Field.keeps_spare fun _ _ _ _ ho => ⟨ho.endpoints, ho.models⟩

/-- **The types of an outline that has been read are canonical.** -/
theorem Outline.isCanonical_of_decode {text : List Text.Symbol} {o : Outline}
    (h : Outline.decoder.decode text = .ok o) : o.IsCanonical := by
  obtain ⟨o', hdecoded, h⟩ := eq_ok_of_bind h
  have ho := Record.holds_of_decoder (fun _ => keeps_isCanonical) hdecoded
  split at h
  · exact absurd h (by simp [failFault])
  · exact Except.ok.inj h ▸ ho

/-! ## Canonical types stay as they are -/

theorem map_eq_self {α : Type} {f : α → α} {l : List α} (h : ∀ a ∈ l, f a = a) : l.map f = l :=
  (List.map_congr_left h).trans (List.map_id l)

theorem TypeExpr.reread_of_canonical {e : TypeExpr} (h : Canonical none e) : e.reread = e :=
  parse_render h

theorem Property.mapType_of_isCanonical {p : Property} (h : p.IsCanonical) :
    p.mapType TypeExpr.reread = p := by
  rw [mapType, TypeExpr.reread_of_canonical h]

theorem Model.mapTypes_of_isCanonical {m : Model} (h : m.IsCanonical) :
    m.mapTypes TypeExpr.reread = m := by
  rw [mapTypes, map_eq_self fun p hp => Property.mapType_of_isCanonical (h p hp)]

theorem Endpoint.mapTypes_of_isCanonical {e : Endpoint} (h : e.IsCanonical) :
    e.mapTypes TypeExpr.reread = e := by
  have hoption : ∀ o : Option TypeExpr, (∀ t, o = some t → TypeExpr.Canonical none t) →
      o.map TypeExpr.reread = o := by
    intro o ho
    cases o with
    | none => rfl
    | some t => rw [Option.map_some, TypeExpr.reread_of_canonical (ho t rfl)]
  rw [mapTypes, hoption _ h.params, hoption _ h.data, TypeExpr.reread_of_canonical h.returned]

theorem Outline.mapTypes_of_isCanonical {o : Outline} (h : o.IsCanonical) :
    o.mapTypes TypeExpr.reread = o := by
  rw [mapTypes, map_eq_self fun e he => Endpoint.mapTypes_of_isCanonical (h.endpoints e he),
    map_eq_self fun m hm => Model.mapTypes_of_isCanonical (h.models m hm)]

/-! ## Reading back -/

theorem Outline.decode_print_encode (o : Outline) (layout : Layout) :
    Outline.decoder.decode (Text.symbolsOfText (layout.print o.encode)) =
      .ok (o.mapTypes TypeExpr.reread) := by
  have h : Accepts Outline.decoder levelLimit o.encode (o.mapTypes TypeExpr.reread) := o.accepts_encode
  cases layout with
  | pretty => exact h.decode_pretty
  | compact => exact h.decode_compact

/-- **Outlines are read back from what is written of them.**  The written form of any outline, in either layout, is
read as that outline with every type written as a text and read again, and nothing else changed.  An outline that has
been read from any text is read back as it is. -/
theorem Outline.decode_print :
    (∀ (o : Outline) (layout : Layout),
      Outline.decoder.decode (Text.symbolsOfText (layout.print o.encode)) =
        .ok (o.mapTypes fun e => TypeExpr.parse none (TypeExpr.render none e))) ∧
    (∀ (text : List Text.Symbol) (o : Outline), Outline.decoder.decode text = .ok o →
      ∀ layout : Layout,
        Outline.decoder.decode (Text.symbolsOfText (layout.print o.encode)) = .ok o) := by
  refine ⟨fun o layout => o.decode_print_encode layout, fun text o h layout => ?_⟩
  rw [o.decode_print_encode layout, mapTypes_of_isCanonical (isCanonical_of_decode h)]

/-- A text with the outline as a list, a group twice, and blanks inside a type. -/
theorem Outline.decode_print_respelled : ∃ o : Outline,
    Outline.decoder.decode (Text.symbolsOfText
      "[null,null,[\"b\",\"a\",\"a\"],[],[[\"M\",\"M\",null,[[\"p\",null,\" Page < Order > \"]]]]]") = .ok o ∧
    o.groups.names = ["a", "b"] ∧
    ∀ layout : Layout, Outline.decoder.decode (Text.symbolsOfText (layout.print o.encode)) = .ok o := by
  have hread : ((Outline.decoder.decode (Text.symbolsOfText
      "[null,null,[\"b\",\"a\",\"a\"],[],[[\"M\",\"M\",null,[[\"p\",null,\" Page < Order > \"]]]]]")).toOption.map
        fun o => o.groups.names) = some ["a", "b"] := by
    decide +kernel
  obtain ⟨o, ho, hnames⟩ := Option.map_eq_some_iff.mp hread
  exact ⟨o, eq_ok_of_toOption ho, hnames, Outline.decode_print.2 _ o (eq_ok_of_toOption ho)⟩

end ApiOutline
