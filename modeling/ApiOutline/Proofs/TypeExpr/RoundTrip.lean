import ApiOutline.Dict
import ApiOutline.Proofs.TypeExpr.Canonical

/-!
# Reading back what was written

The text of a canonical tree is read as that tree.  The induction is on the tree, and it says of each subtree
that its text, wherever it stands, takes the reader from an empty slot to the slot that holds the subtree, up
to the delimiter behind it.  The namespace under which the text is read need not be the one under which it was
written: then the collections and the arguments are the same, and only the model names are read anew.

* `renamed`: the tree that is read under another namespace.
* `Slot.of`: the slot after the text of a tree.
* `ReadsBack`: what is said of each subtree.
* `parse_render_eq`, `parse_render`: the main statements.
-/

namespace ApiOutline

namespace Builtin

/-- What holds of the keys that a document may write and of the canonical names holds of all names of builtins. -/
theorem of_ofName? {P : String → Prop} (htable : ∀ p ∈ table, P p.1) (hall : ∀ b ∈ all, P b.canonical) {n : String}
    {b : Builtin} (h : ofName? n = some b) : P n := by
  rcases Option.or_eq_some_iff.mp h with hkey | ⟨-, hcanonical⟩
  · exact htable (n, b) (mem_of_lookup hkey)
  · have hname := List.find?_some hcanonical
    rw [beq_iff_eq] at hname
    rw [← hname]
    exact hall b (List.mem_of_find?_eq_some hcanonical)

/-- No name of a builtin holds a point. -/
theorem dot_notMem_of_ofName? {n : String} {b : Builtin} (h : ofName? n = some b) :
    '.' ∉ n.toList := by
  have htable : ∀ p ∈ table, '.' ∉ p.1.toList := by decide
  have hall : ∀ b ∈ all, '.' ∉ b.canonical.toList := by decide
  exact of_ofName? (P := fun n => '.' ∉ n.toList) htable hall h

theorem tidy_canonical (b : Builtin) : TypeExpr.Token.Tidy b.canonical.toList := by
  cases b <;> exact ⟨by decide, by decide, by decide⟩

end Builtin

namespace TypeExpr

open Token Text

variable {space : Option String}

/-! ## Names with arguments -/

/-- A name without a point carries no qualifier. -/
theorem unqualify_of_dot_notMem {n : String} (h : '.' ∉ n.toList) : unqualify space n = n := by
  rcases qualifier_cases space with hq | ⟨ns, -, -, hq⟩
  · have hname := unqualify_qualified space n
    rwa [hq, String.empty_append] at hname
  · refine unqualify_of_not_qualified fun hstart => h ?_
    rw [hq] at hstart
    exact hstart.subset (by simp)

theorem build_empty (args : List TypeExpr) : build space "" args = unresolved "" := by
  have hname : unqualify space "" = "" := by
    rcases unqualify_cases space "" with h | h
    · exact (String.append_eq_empty_iff.mp h.symm).2
    · exact h
  unfold build
  rw [hname]
  rfl

/-- What becomes of a name of a builtin. -/
theorem build_of_ofName? {n : String} {b : Builtin} (args : List TypeExpr) :
    Builtin.ofName? n = some b → build space n args =
      match b, args with
      | .array, item :: _ => array item
      | .record, [value] => map (scalar .string) value
      | .record, key :: value :: _ => map key value
      | b, _ => ofBuiltin b := by
  intro h
  have hne : n ≠ "" := by
    rintro rfl
    rw [show Builtin.ofName? "" = none from by decide] at h
    exact absurd h (by simp)
  unfold build
  rw [unqualify_of_dot_notMem (Builtin.dot_notMem_of_ofName? h)]
  dsimp only
  rw [if_neg (by simpa using hne), h]
  cases b <;> rcases args with _ | ⟨_, _ | ⟨_, _⟩⟩ <;> rfl

/-- What becomes of a name that is no builtin. -/
theorem build_of_foreign {name n : String} (hname : unqualify space name = n) (hne : n ≠ "")
    (hforeign : Builtin.ofName? n = none) (args : List TypeExpr) :
    build space name args = if args = [] then model n else generic n args := by
  have hempty : n.isEmpty = false := by simpa using hne
  unfold build
  rw [hname]
  dsimp only
  rw [hempty, if_neg (by simp), hforeign]
  cases args with
  | nil => rfl
  | cons e es => rfl

theorem build_modelName {n : String} (h : ModelName space n) (args : List TypeExpr) :
    build space (qualifier space ++ n) args = if args = [] then model n else generic n args :=
  build_of_foreign (unqualify_qualified space n) h.ne_empty h.foreign args

/-! ## Steps of the reader -/

theorem readFrom_name (frames : List Frame) (n : String) (rest : List Token) :
    readFrom space frames .empty (.name n :: rest) = readFrom space frames (.named n) rest := by
  cases frames <;> rfl

theorem readFrom_opener (frames : List Frame) (n : String) (rest : List Token) :
    readFrom space frames (.named n) (.opener :: rest) =
      readFrom space (⟨n, []⟩ :: frames) .empty rest := by
  cases frames <;> rfl

theorem readFrom_comma (f : Frame) (frames : List Frame) (slot : Slot) (rest : List Token) :
    readFrom space (f :: frames) slot (.comma :: rest) =
      readFrom space (⟨f.base, slot.value space :: f.args⟩ :: frames) .empty rest := by
  cases slot <;> rfl

theorem readFrom_closer (f : Frame) (frames : List Frame) (slot : Slot) (rest : List Token) :
    readFrom space (f :: frames) slot (.closer :: rest) =
      readFrom space frames (.filled (f.close space (slot.value space))) rest := by
  cases slot <;> rfl

/-- A name with an opener behind it opens an argument list. -/
theorem readFrom_head {n : List Char} (hn : Tidy n) (frames : List Frame) (rest : List Char) :
    readFrom space frames .empty (scanFrom [] (n ++ '<' :: rest)) =
      readFrom space (⟨String.ofList n, []⟩ :: frames) .empty (scanFrom [] rest) := by
  rw [scanFrom_tidy_append hn (ends_cons (by decide)), scanFrom_cons_delimiter (d := .opener) rfl,
    readFrom_name, readFrom_opener]

/-! ## What is read -/

mutual

/-- The tree that is read under the namespace `space` from the text of a tree that was written under `written`.
Builtins and collections stay, and each model name is read with the qualifier that was written before it. -/
def renamed (space written : Option String) : TypeExpr → TypeExpr
  | scalar b => scalar b
  | array item => array (renamed space written item)
  | map key value => map (renamed space written key) (renamed space written value)
  | generic base args => build space (qualifier written ++ base) (renamedAll space written args)
  | model n => build space (qualifier written ++ n) []
  | unresolved _ => unresolved ""

/-- The trees that are read under `space` from texts of trees that were written under `written`. -/
def renamedAll (space written : Option String) : List TypeExpr → List TypeExpr
  | [] => []
  | e :: es => renamed space written e :: renamedAll space written es

end

theorem renamedAll_eq_map (written : Option String) :
    ∀ es, renamedAll space written es = es.map (renamed space written)
  | [] => rfl
  | e :: es => by rw [renamedAll, renamedAll_eq_map written es, List.map_cons]

/-! ## Subtrees -/

variable {written : Option String}

/-- The slot after the text of a tree. -/
def Slot.of (space written : Option String) : TypeExpr → Slot
  | scalar b => .named b.canonical
  | model n => .named (qualifier written ++ n)
  | unresolved _ => .empty
  | e => .filled (e.renamed space written)

/-- Wherever the text of the tree `e` under `written` stands, it is read under `space` as `e.renamed`. -/
structure ReadsBack (space written : Option String) (e : TypeExpr) : Prop where
  value : (Slot.of space written e).value space = e.renamed space written
  reads : ∀ frames rest, Ends rest →
    readFrom space frames .empty (scanFrom [] ((render written e).toList ++ rest)) =
      readFrom space frames (Slot.of space written e) (scanFrom [] rest)

namespace ReadsBack

/-- An argument with a comma behind it. -/
theorem more {e : TypeExpr} (h : ReadsBack space written e) (base : String) (args : List TypeExpr)
    (frames : List Frame) (rest : List Char) :
    readFrom space (⟨base, args⟩ :: frames) .empty
        (scanFrom [] ((render written e).toList ++ ',' :: ' ' :: rest)) =
      readFrom space (⟨base, e.renamed space written :: args⟩ :: frames) .empty (scanFrom [] rest) := by
  have hblank : scanFrom [] (' ' :: rest) = scanFrom [] rest := by
    rw [scanFrom_cons, show delimiter? ' ' = none from rfl]
    exact scanFrom_append_blank (by decide) [] rest
  rw [h.reads _ _ (ends_cons (by decide)), scanFrom_cons_delimiter (d := .comma) rfl, readFrom_comma,
    h.value, hblank]

/-- An argument with a closer behind it. -/
theorem last {e : TypeExpr} (h : ReadsBack space written e) (base : String) (args : List TypeExpr)
    (frames : List Frame) (rest : List Char) :
    readFrom space (⟨base, args⟩ :: frames) .empty
        (scanFrom [] ((render written e).toList ++ '>' :: rest)) =
      readFrom space frames (.filled (build space base (args.reverse ++ [e.renamed space written])))
        (scanFrom [] rest) := by
  rw [h.reads _ _ (ends_cons (by decide)), scanFrom_cons_delimiter (d := .closer) rfl,
    readFrom_closer, h.value, Frame.close, List.reverse_cons]

/-- Arguments, one after the other. -/
theorem arguments {e : TypeExpr} {es : List TypeExpr} (h : ReadsBack space written e)
    (hes : ∀ e ∈ es, ReadsBack space written e) (base : String) (args : List TypeExpr)
    (frames : List Frame) (rest : List Char) :
    readFrom space (⟨base, args⟩ :: frames) .empty
        (scanFrom [] ((render written e).toList ++ ((renderMoreArgs written es).toList ++ '>' :: rest))) =
      readFrom space frames (.filled (build space base (args.reverse ++ renamedAll space written (e :: es))))
        (scanFrom [] rest) := by
  induction es generalizing e args with
  | nil => exact h.last base args frames rest
  | cons e' es ih =>
    obtain ⟨he', hes⟩ := List.forall_mem_cons.mp hes
    have htext : (renderMoreArgs written (e' :: es)).toList ++ '>' :: rest =
        ',' :: ' ' :: ((render written e').toList ++
          ((renderMoreArgs written es).toList ++ '>' :: rest)) := by
      simp
    rw [htext, h.more, ih he' hes]
    simp [renamedAll]

theorem scalar {b : Builtin} (h : b.isCollection = false) : ReadsBack space written (.scalar b) where
  value := by
    show build space b.canonical [] = .scalar b
    rw [build_of_ofName? _ (Builtin.ofName?_canonical b)]
    cases b <;> first | rfl | exact absurd h (by decide)
  reads := fun frames rest hrest => by
    rw [render_scalar, scanFrom_tidy_append (Builtin.tidy_canonical b) hrest, readFrom_name,
      String.ofList_toList]
    rfl

theorem array {item : TypeExpr} (h : ReadsBack space written item) :
    ReadsBack space written (.array item) where
  value := rfl
  reads := fun frames rest _ => by
    have htext : (render written (.array item)).toList ++ rest =
        Builtin.array.canonical.toList ++ '<' :: ((render written item).toList ++ '>' :: rest) := by
      simp [Builtin.canonical]
    rw [htext, readFrom_head (Builtin.tidy_canonical _), h.last, String.ofList_toList,
      build_of_ofName? _ (Builtin.ofName?_canonical _)]
    rfl

theorem map {key value : TypeExpr} (hkey : ReadsBack space written key)
    (hvalue : ReadsBack space written value) : ReadsBack space written (.map key value) where
  value := rfl
  reads := fun frames rest _ => by
    have htext : (render written (.map key value)).toList ++ rest =
        Builtin.record.canonical.toList ++ '<' :: ((render written key).toList ++
          ',' :: ' ' :: ((render written value).toList ++ '>' :: rest)) := by
      simp [Builtin.canonical]
    rw [htext, readFrom_head (Builtin.tidy_canonical _), hkey.more, hvalue.last,
      String.ofList_toList, build_of_ofName? _ (Builtin.ofName?_canonical _)]
    rfl

theorem generic {base : String} {args : List TypeExpr} (hbase : ModelName written base)
    (hne : args ≠ []) (hargs : ∀ e ∈ args, ReadsBack space written e) :
    ReadsBack space written (.generic base args) where
  value := rfl
  reads := fun frames rest _ => by
    obtain ⟨e, es, rfl⟩ := List.exists_cons_of_ne_nil hne
    obtain ⟨he, hes⟩ := List.forall_mem_cons.mp hargs
    have htext : (render written (.generic base (e :: es))).toList ++ rest =
        (qualifier written ++ base).toList ++ '<' :: ((render written e).toList ++
          ((renderMoreArgs written es).toList ++ '>' :: rest)) := by
      simp
    rw [htext, readFrom_head hbase.tidy, he.arguments hes, String.ofList_toList]
    rfl

theorem model {n : String} (h : ModelName written n) : ReadsBack space written (.model n) where
  value := rfl
  reads := fun frames rest hrest => by
    rw [render_model, scanFrom_tidy_append h.tidy hrest, readFrom_name, String.ofList_toList]
    rfl

theorem unresolved : ReadsBack space written (.unresolved "") where
  value := build_empty []
  reads := fun _ _ _ => rfl

end ReadsBack

/-! ## Whole texts -/

theorem Canonical.readsBack {e : TypeExpr} (h : Canonical written e) : ReadsBack space written e := by
  induction h with
  | scalar h => exact .scalar h
  | array _ ih => exact ih.array
  | map _ _ ihkey ihvalue => exact ihkey.map ihvalue
  | generic hbase hne _ ih => exact .generic hbase hne ih
  | model h => exact .model h
  | unresolved => exact .unresolved

/-- **The text of a canonical tree under one namespace, read under another.** -/
theorem parse_render_eq {e : TypeExpr} (h : Canonical written e) :
    parse space (render written e) = e.renamed space written := by
  have hback : ReadsBack space written e := h.readsBack
  have hreads := hback.reads [] [] ends_nil
  rw [List.append_nil] at hreads
  rw [parse, scan, hreads]
  exact hback.value

/-- Under the namespace under which it was written a canonical tree is read as it is. -/
theorem Canonical.renamed_self {e : TypeExpr} (h : Canonical space e) : e.renamed space space = e := by
  induction h with
  | scalar _ => rfl
  | array _ ih => rw [renamed, ih]
  | map _ _ ihkey ihvalue => rw [renamed, ihkey, ihvalue]
  | @generic base args hbase hne _ ih =>
    have hargs : args.map (renamed space space) = args := (List.map_congr_left ih).trans (List.map_id args)
    rw [renamed, renamedAll_eq_map, hargs, build_modelName hbase, if_neg hne]
  | model h => rw [renamed, build_modelName h, if_pos rfl]
  | unresolved => rfl

/-- **A canonical tree is read back from its text.** -/
theorem parse_render {e : TypeExpr} (h : Canonical space e) : parse space (render space e) = e :=
  (parse_render_eq h).trans h.renamed_self

end TypeExpr

end ApiOutline
