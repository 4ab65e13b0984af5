import ApiOutline.Proofs.TypeExpr.RoundTrip
import Mathlib.Tactic.TFAE

/-!
# The namespaces under which spelling is stable

A text in canonical spelling stays as it is when it is read and written again, if the namespace can be read
as part of a name.  For every other namespace some short text shows the opposite: a model name is enough, or
a model name with one argument.

* `parse_of_plain`, `parse_of_opener`, `parse_of_end`: what the first delimiter of a text decides.
* `respell_respell_ne_of_blank`: namespaces that begin with white space.
* `respell_respell_ne_of_opener`, `respell_respell_ne_of_end`: namespaces that hold a delimiter.
* `readable_tfae`: the main statement.
-/

namespace ApiOutline.TypeExpr

open Token Text

variable {space : Option String} {ns : String}

/-! ## Reading a text up to its first delimiter -/

/-- A text that holds a delimiter has a first one. -/
theorem exists_delimiter {cs : List Char} (h : ¬ Plain cs) :
    ∃ front c d back, cs = front ++ c :: back ∧ Plain front ∧ delimiter? c = some d := by
  induction cs with
  | nil => exact absurd plain_nil h
  | cons c cs ih =>
    cases hc : delimiter? c with
    | some d => exact ⟨[], c, d, cs, rfl, plain_nil, hc⟩
    | none =>
      obtain ⟨front, c', d, back, rfl, hfront, hc'⟩ := ih fun hcs => h (hcs.cons hc)
      exact ⟨c :: front, c', d, back, rfl, hfront.cons hc, hc'⟩

theorem readFrom_done (e : TypeExpr) (ts : List Token) : readFrom space [] (.filled e) ts = e := by
  cases ts with
  | nil => rfl
  | cons t ts => cases t <;> rfl

theorem closeAll_append (e : TypeExpr) (frames : List Frame) (f : Frame) :
    closeAll space e (frames ++ [f]) = f.close space (closeAll space e frames) := by
  simp only [closeAll, List.foldl_append, List.foldl_cons, List.foldl_nil]

theorem Frame.exists_close (f : Frame) (last : TypeExpr) :
    ∃ args, args ≠ [] ∧ f.close space last = build space f.base args :=
  ⟨(last :: f.args).reverse, by simp, rfl⟩

/-- Inside an argument list the reader ends with the name before the list and some arguments, whatever
follows. -/
theorem readFrom_inside {frames : List Frame} {slot : Slot} {ts : List Token} (base : String) :
    ∀ outer args, frames = outer ++ [⟨base, args⟩] →
      ∃ args', args' ≠ [] ∧ readFrom space frames slot ts = build space base args' := by
  have hclose : ∀ (outer : List Frame) (args : List TypeExpr) (e : TypeExpr), ∃ args',
      args' ≠ [] ∧ closeAll space e (outer ++ [⟨base, args⟩]) = build space base args' := by
    intro outer args e
    rw [closeAll_append]
    exact Frame.exists_close _ _
  fun_induction readFrom space frames slot ts with
  | case1 frames slot =>
    rintro outer args rfl
    exact hclose outer args _
  | case2 frames n rest ih => exact ih
  | case3 frames rest ih =>
    rintro outer args rfl
    exact ih (_ :: outer) args rfl
  | case4 frames n rest ih =>
    rintro outer args rfl
    exact ih (_ :: outer) args rfl
  | case5 slot f frames rest ih =>
    intro outer args hframes
    cases outer with
    | nil =>
      obtain ⟨rfl, rfl⟩ := List.cons.inj hframes
      exact ih [] _ rfl
    | cons g outer =>
      obtain ⟨rfl, rfl⟩ := List.cons.inj hframes
      exact ih (_ :: outer) args rfl
  | case6 slot f frames rest ih =>
    intro outer args hframes
    cases outer with
    | nil =>
      obtain ⟨rfl, rfl⟩ := List.cons.inj hframes
      rw [readFrom_done]
      exact Frame.exists_close _ _
    | cons g outer =>
      obtain ⟨rfl, rfl⟩ := List.cons.inj hframes
      exact ih outer args rfl
  | case7 frames slot ts =>
    rintro outer args rfl
    exact hclose outer args _

/-- A text whose first delimiter is an opener becomes the name before it, with arguments. -/
theorem parse_of_opener (space : Option String) {text : String} {front back : List Char} {c : Char}
    (htext : text.toList = front ++ c :: back) (hfront : Plain front)
    (hc : delimiter? c = some .opener) :
    ∃ args, args ≠ [] ∧ parse space text = build space (String.ofList (trimChars front)) args := by
  have hends : Ends (c :: back) := ends_cons (by rw [hc]; simp)
  obtain ⟨args, hne, hargs⟩ : ∃ args, args ≠ [] ∧
      readFrom space [⟨String.ofList (trimChars front), []⟩] .empty (scanFrom [] back) =
        build space (String.ofList (trimChars front)) args :=
    readFrom_inside _ [] [] rfl
  refine ⟨args, hne, ?_⟩
  rw [parse, scan, htext, scanFrom_append_of_ends hfront hends, scanFrom_cons_delimiter hc, ← hargs]
  rcases ofName_cases hfront with ⟨hnil, hname⟩ | ⟨-, hname⟩ <;> rw [hname]
  · rw [hnil]
    rfl
  · rfl

/-- Outside of argument lists a name is all that is read before something that ends it. -/
theorem readFrom_front {front : List Char} {ts : List Token} (h : Plain front)
    (hstop : ∀ slot, readFrom space [] slot ts = slot.value space) :
    readFrom space [] .empty (ofName front ++ ts) =
      build space (String.ofList (trimChars front)) [] := by
  rcases ofName_cases h with ⟨hnil, hname⟩ | ⟨-, hname⟩ <;> rw [hname]
  · rw [List.nil_append, hstop, hnil]
    rfl
  · rw [List.singleton_append, readFrom_name, hstop]
    rfl

/-- A text without delimiters becomes the name that it is. -/
theorem parse_of_plain (space : Option String) {text : String} (h : Plain text.toList) :
    parse space text = build space (String.ofList (trimChars text.toList)) [] := by
  rw [parse, scan, ← List.append_nil text.toList, scanFrom_append_of_ends h ends_nil,
    List.append_nil]
  exact readFrom_front h fun _ => rfl

/-- A text whose first delimiter is a comma or a closer becomes the name before it. -/
theorem parse_of_end (space : Option String) {text : String} {front back : List Char} {c : Char}
    {d : Token} (htext : text.toList = front ++ c :: back) (hfront : Plain front)
    (hc : delimiter? c = some d) (hd : d ≠ .opener) :
    parse space text = build space (String.ofList (trimChars front)) [] := by
  have hends : Ends (c :: back) := ends_cons (by rw [hc]; simp)
  rw [parse, scan, htext, scanFrom_append_of_ends hfront hends, scanFrom_cons_delimiter hc]
  refine readFrom_front hfront fun slot => ?_
  cases d with
  | name n => exact absurd hc (delimiter?_ne_name c n)
  | opener => exact absurd rfl hd
  | closer => cases slot <;> rfl
  | comma => cases slot <;> rfl

/-! ## Texts that change when they are spelled twice -/

/-- The text of a tree that is no model does not end like the name of a model. -/
theorem getLast?_render_ne (space : Option String) {e : TypeExpr} (h : ∀ n, e ≠ model n) :
    (render space e).toList.getLast? ≠ some 'X' := by
  cases e with
  | scalar b =>
    rw [render_scalar]
    cases b <;> decide
  | model n => exact absurd rfl (h n)
  | unresolved r => simp
  | array item =>
    rw [render_array, String.toList_append, List.getLast?_append_of_ne_nil _ (by simp)]
    simp
  | map key value =>
    rw [render_map, String.toList_append, List.getLast?_append_of_ne_nil _ (by simp)]
    simp
  | generic base args =>
    rw [render_generic, String.toList_append, List.getLast?_append_of_ne_nil _ (by simp)]
    simp

theorem build_ne_model (space : Option String) (name : String) {args : List TypeExpr}
    (hne : args ≠ []) (n : String) : build space name args ≠ model n := by
  unfold build
  dsimp only
  split
  · simp
  split
  · simp
  · simp
  · simp
  · next b _ _ _ _ => cases b <;> simp [ofBuiltin]
  · exact absurd rfl hne
  · simp

theorem dot_notMem_render_ofBuiltin (b : Builtin) :
    '.' ∉ (render space (ofBuiltin b)).toList := by
  cases b <;> simp [ofBuiltin, any, Builtin.canonical]

/-- A name before a comma or a closer becomes a text without a point, or a model name. -/
theorem render_build_nil (hne : ns ≠ "") {n : String} (hn : unqualify (some ns) n = n) :
    '.' ∉ (render (some ns) (build (some ns) n [])).toList ∨
      render (some ns) (build (some ns) n []) = ns ++ "." ++ n := by
  by_cases hempty : n = ""
  · refine Or.inl ?_
    rw [hempty, build_empty]
    simp
  cases hforeign : Builtin.ofName? n with
  | none =>
    refine Or.inr ?_
    rw [build_of_foreign hn hempty hforeign, if_pos rfl, render_model, qualifier_of_ne hne]
  | some b =>
    refine Or.inl ?_
    have hbuild : build (some ns) n [] = ofBuiltin b := by
      rw [build_of_ofName? _ hforeign]
      cases b <;> rfl
    rw [hbuild]
    exact dot_notMem_render_ofBuiltin b

section

variable (hne : ns ≠ "")

include hne

theorem respell_model : respell (some ns) "X" = ns ++ "." ++ "X" := by
  have hscan : scan "X" = [.name "X"] := by decide
  have hparse : parse (some ns) "X" = build (some ns) "X" [] := by
    rw [parse, hscan]
    rfl
  rw [respell, hparse, build_of_foreign (unqualify_of_dot_notMem (by decide)) (by decide) (by decide),
    if_pos rfl, render_model, qualifier_of_ne hne]

theorem respell_generic :
    respell (some ns) "X<Y>" = ns ++ "." ++ "X" ++ "<" ++ (ns ++ "." ++ "Y") ++ ">" := by
  have hscan : scan "X<Y>" = [.name "X", .opener, .name "Y", .closer] := by decide
  have hparse : parse (some ns) "X<Y>" = build (some ns) "X" [build (some ns) "Y" []] := by
    rw [parse, hscan]
    rfl
  rw [respell, hparse, build_of_foreign (unqualify_of_dot_notMem (by decide)) (by decide) (by decide),
    build_of_foreign (unqualify_of_dot_notMem (by decide)) (by decide) (by decide), if_pos rfl,
    if_neg (by simp), render_generic, renderArgs_cons, render_model, qualifier_of_ne hne,
    renderMoreArgs_nil, String.append_empty]

/-- A namespace that begins with white space loses it when a model name is read back. -/
theorem respell_respell_ne_of_blank (hplain : Plain ns.toList) {c : Char}
    (hhead : ns.toList.head? = some c) (hc : isBlank c = true) :
    respell (some ns) (respell (some ns) "X") ≠ respell (some ns) "X" := by
  rw [respell_model hne]
  have hchars : (ns ++ "." ++ "X").toList = ns.toList ++ ['.', 'X'] := by simp
  have honce : Plain (ns ++ "." ++ "X").toList := by
    rw [hchars]
    exact hplain.append ((plain_nil.cons (by decide)).cons (by decide))
  have hparse := parse_of_plain (some ns) honce
  generalize htrim : trimChars (ns ++ "." ++ "X").toList = trimmed at hparse
  have hdot : '.' ∈ trimmed := htrim ▸ mem_trimChars (by simp) (by decide)
  -- the name begins with no white space any more, so it does not begin with the namespace
  have hn : unqualify (some ns) (String.ofList trimmed) = String.ofList trimmed := by
    refine unqualify_of_not_qualified ?_
    rintro ⟨rest, hrest⟩
    rw [qualifier_of_ne hne, String.toList_append, List.append_assoc,
      String.toList_ofList (l := trimmed)] at hrest
    have hblank : isBlank c = false := by
      refine isBlank_of_head?_trimChars (s := (ns ++ "." ++ "X").toList) ?_
      rw [htrim, ← hrest, List.head?_append, hhead, Option.some_or]
    rw [hc] at hblank
    exact absurd hblank (by simp)
  intro h
  rw [respell, hparse] at h
  rcases render_build_nil hne hn with hno | heq
  · rw [h] at hno
    exact hno (by simp)
  · rw [heq, String.append_right_inj] at h
    rw [← String.toList_ofList (l := trimmed), h] at hdot
    exact absurd hdot (by decide)

/-- A namespace whose first delimiter is an opener turns a model name into something with arguments. -/
theorem respell_respell_ne_of_opener {front back : List Char} {c : Char}
    (hns : ns.toList = front ++ c :: back) (hfront : Plain front)
    (hc : delimiter? c = some .opener) :
    respell (some ns) (respell (some ns) "X") ≠ respell (some ns) "X" := by
  rw [respell_model hne]
  have htext : (ns ++ "." ++ "X").toList = front ++ c :: (back ++ ['.', 'X']) := by simp [hns]
  obtain ⟨args, hargs, hparse⟩ := parse_of_opener (some ns) htext hfront hc
  have hlast := getLast?_render_ne (some ns) (build_ne_model (some ns) (String.ofList (trimChars front)) hargs)
  intro h
  rw [respell, hparse] at h
  rw [h] at hlast
  exact hlast (by simp)

/-- A namespace whose first delimiter is a comma or a closer cuts a model name off there, and its argument
with it. -/
theorem respell_respell_ne_of_end {front back : List Char} {c : Char} {d : Token}
    (hns : ns.toList = front ++ c :: back) (hfront : Plain front)
    (hc : delimiter? c = some d) (hd : d ≠ .opener) :
    respell (some ns) (respell (some ns) "X<Y>") ≠ respell (some ns) "X<Y>" := by
  rw [respell_generic hne]
  have htext : (ns ++ "." ++ "X" ++ "<" ++ (ns ++ "." ++ "Y") ++ ">").toList =
      front ++ c :: (back ++ (".X<" ++ (ns ++ "." ++ "Y") ++ ">").toList) := by simp [hns]
  have hparse := parse_of_end (some ns) htext hfront hc hd
  generalize htrim : trimChars front = trimmed at hparse
  have hplain : Plain trimmed := htrim ▸ hfront.trimChars
  -- the delimiter is in the namespace and not in the name
  have hn : unqualify (some ns) (String.ofList trimmed) = String.ofList trimmed := by
    refine unqualify_of_not_qualified fun hstart => ?_
    rw [qualifier_of_ne hne, String.toList_ofList] at hstart
    have hmem := hplain c (hstart.subset (by simp [hns]))
    rw [hc] at hmem
    exact absurd hmem (by simp)
  intro h
  rw [respell, hparse] at h
  rcases render_build_nil hne hn with hno | heq
  · rw [h] at hno
    exact hno (by simp)
  · rw [heq] at h
    have hopener : '<' ∈ trimmed := by
      have hchars := congrArg String.toList h
      simp only [String.toList_append, String.toList_ofList, List.append_assoc,
        List.append_cancel_left_eq] at hchars
      rw [hchars]
      simp
    exact absurd (hplain '<' hopener) (by decide)

end

/-! ## The namespaces that keep spelling stable -/

/-- If every text in canonical spelling stays as it is, the namespace is readable. -/
theorem isReadable_of_respell
    (h : ∀ text, respell space (respell space text) = respell space text) : IsReadable space := by
  rintro ns rfl hne
  have hplain : Plain ns.toList := by
    by_contra hnot
    obtain ⟨front, c, d, back, hns, hfront, hc⟩ := exists_delimiter hnot
    by_cases hd : d = .opener
    · rw [hd] at hc
      exact respell_respell_ne_of_opener hne hns hfront hc (h "X")
    · exact respell_respell_ne_of_end hne hns hfront hc hd (h "X<Y>")
  refine ⟨fun c hc => delimiter?_eq_none_iff.mp (hplain c hc), fun c hhead => ?_⟩
  by_contra hblank
  rw [Bool.not_eq_false] at hblank
  exact respell_respell_ne_of_blank hne hplain hhead hblank (h "X")

/-- **Spelling is stable exactly under readable namespaces.**  A namespace is readable, that is, missing, empty,
or without delimiters and white space at its beginning, if and only if every text that has been read is read
back from its canonical spelling, and if and only if every canonical spelling is its own. -/
theorem readable_tfae (space : Option String) :
    List.TFAE [
      IsReadable space,
      ∀ text, parse space (render space (parse space text)) = parse space text,
      ∀ text, respell space (respell space text) = respell space text] := by
  tfae_have 1 → 2 := fun hspace text => parse_render (canonical_parse hspace text)
  tfae_have 2 → 3 := fun h text => by rw [respell, respell, h]
  tfae_have 3 → 1 := isReadable_of_respell
  tfae_finish

end ApiOutline.TypeExpr
