import ApiOutline.Proofs.TypeExpr.RoundTrip

/-!
# Closers that are missing, and text that is too much

At its end a type text closes every argument list that is still open.  So a closer more makes no difference, whatever
has been read before it: inside an argument list it closes the innermost one as the end of the text would do, outside of
all lists it ends the text, and where reading has stopped already it is not looked at.

The text of a tree is read as a whole, outside of all argument lists.  So a comma or a closer behind it ends the text
there, whatever follows.

* `readFrom_cons_cases`: a token is read, or reading stops at it.
* `parse_append_closers`: closers behind a text.
* `parse_render_append`: more text behind the text of a tree.
* `parse_lenient`: the main statement.
-/

namespace ApiOutline.TypeExpr

open Token Text

variable {space : Option String}

/-! ## Closers behind a text -/

/-- Behind a text, where a name ends, reading goes on afresh. -/
theorem Token.scanFrom_append {rest : List Char} (h : Ends rest) :
    ∀ pending cs : List Char, scanFrom pending (cs ++ rest) = scanFrom pending cs ++ scanFrom [] rest
  | pending, [] => scanFrom_of_ends pending h
  | pending, c :: cs => by
    rw [List.cons_append, scanFrom_cons, scanFrom_cons]
    cases delimiter? c with
    | none => exact scanFrom_append h (c :: pending) cs
    | some d =>
      dsimp only
      rw [scanFrom_append h [] cs, List.append_assoc, List.cons_append]

/-- A token is read, or reading stops at it; what is behind it does not matter for that. -/
theorem readFrom_cons_cases (frames : List Frame) (slot : Slot) (t : Token) :
    (∃ frames' slot', ∀ rest, readFrom space frames slot (t :: rest) = readFrom space frames' slot' rest) ∨
      ∀ rest, readFrom space frames slot (t :: rest) = closeAll space (slot.value space) frames := by
  cases t with
  | name n =>
    cases slot with
    | empty => exact Or.inl ⟨frames, .named n, readFrom_name frames n⟩
    | _ => exact Or.inr fun rest => by simp only [readFrom]
  | opener =>
    cases slot with
    | empty => exact Or.inl ⟨⟨"", []⟩ :: frames, .empty, fun rest => by simp only [readFrom]⟩
    | named n => exact Or.inl ⟨⟨n, []⟩ :: frames, .empty, readFrom_opener frames n⟩
    | filled e => exact Or.inr fun rest => by simp only [readFrom]
  | comma =>
    cases frames with
    | nil => exact Or.inr fun rest => by simp only [readFrom]
    | cons f frames => exact Or.inl ⟨_, _, readFrom_comma f frames slot⟩
  | closer =>
    cases frames with
    | nil => exact Or.inr fun rest => by simp only [readFrom]
    | cons f frames => exact Or.inl ⟨_, _, readFrom_closer f frames slot⟩

/-- A closer where the text would end closes the innermost argument list, as the end of the text would do. -/
theorem readFrom_closer_nil (frames : List Frame) (slot : Slot) :
    readFrom space frames slot [.closer] = readFrom space frames slot [] := by
  cases frames with
  | nil => simp only [readFrom]
  | cons f frames => simp only [readFrom, Slot.value, closeAll, List.foldl_cons]

/-- **A closer behind the last token makes no difference**, however many argument lists are open. -/
theorem readFrom_append_closer (frames : List Frame) (slot : Slot) (ts : List Token) :
    readFrom space frames slot (ts ++ [.closer]) = readFrom space frames slot ts := by
  induction ts generalizing frames slot with
  | nil => exact readFrom_closer_nil frames slot
  | cons t ts ih =>
    rw [List.cons_append]
    rcases readFrom_cons_cases frames slot t with ⟨frames', slot', hread⟩ | hstop
    · rw [hread, hread, ih]
    · rw [hstop, hstop]

theorem parse_append_closer {c : Char} (hc : delimiter? c = some .closer) (text : String) :
    parse space (text ++ String.ofList [c]) = parse space text := by
  have hends : Ends [c] := ends_cons (by rw [hc]; simp)
  have hscan : scan (text ++ String.ofList [c]) = scan text ++ [.closer] := by
    rw [scan, String.toList_append, String.toList_ofList, scanFrom_append hends, scanFrom_cons_delimiter hc]
    rfl
  rw [parse, hscan, readFrom_append_closer, parse]

/-- **Closers behind a text make no difference.** -/
theorem parse_append_closers {closers : List Char} (h : ∀ c ∈ closers, delimiter? c = some .closer) (text : String) :
    parse space (text ++ String.ofList closers) = parse space text := by
  induction closers generalizing text with
  | nil => rw [String.ofList_nil, String.append_empty]
  | cons c closers ih =>
    obtain ⟨hc, hclosers⟩ := List.forall_mem_cons.mp h
    have htext : text ++ String.ofList (c :: closers) = text ++ String.ofList [c] ++ String.ofList closers := by
      rw [String.append_assoc, ← String.ofList_append, List.singleton_append]
    rw [htext, ih hclosers, parse_append_closer hc]

/-! ## Text behind a tree -/

/-- Outside of all argument lists a comma or a closer ends the text. -/
theorem readFrom_ended {d : Token} (hd : d = .comma ∨ d = .closer) (slot : Slot) (ts : List Token) :
    readFrom space [] slot (d :: ts) = slot.value space := by
  rcases hd with rfl | rfl <;> simp only [readFrom, closeAll, List.foldl_nil]

/-- **A canonical tree is read back from its text and a comma or closer behind it**, whatever follows. -/
theorem parse_render_append {e : TypeExpr} (h : Canonical space e) {c : Char} {d : Token} (hc : delimiter? c = some d)
    (hd : d = .comma ∨ d = .closer) (junk : List Char) :
    parse space (render space e ++ String.ofList (c :: junk)) = e := by
  have hends : Ends (c :: junk) := ends_cons (by rw [hc]; simp)
  have hback : ReadsBack space space e := h.readsBack
  rw [parse, scan, String.toList_append, String.toList_ofList, hback.reads [] _ hends, scanFrom_cons_delimiter hc,
    readFrom_ended hd, hback.value, h.renamed_self]

/-! ## Both together -/

/-- **Missing closers are implied, and what is too much is ignored.**  Closers behind a text change nothing, under
every namespace and however many there are.  A tree that has been read is read again from its text with a comma or a
closer behind it and any further text. -/
theorem parse_lenient :
    (∀ (space : Option String) (text : String) (closers : List Char), (∀ c ∈ closers, c = '>' ∨ c = '»') →
      parse space (text ++ String.ofList closers) = parse space text) ∧
    ∀ (text : String) (c : Char) (junk : String), c = ',' ∨ c = '>' ∨ c = '»' →
      parse none (render none (parse none text) ++ String.ofList [c] ++ junk) = parse none text := by
  refine ⟨fun space text closers h => ?_, fun text c junk h => ?_⟩
  · refine parse_append_closers (fun c hc => ?_) text
    rcases h c hc with rfl | rfl <;> rfl
  · have hjunk : String.ofList [c] ++ junk = String.ofList (c :: junk.toList) := by
      rw [← List.singleton_append (l := junk.toList), String.ofList_append, String.ofList_toList]
    have hcanonical : Canonical none (parse none text) := canonical_parse isReadable_none text
    rw [String.append_assoc, hjunk]
    rcases h with rfl | rfl | rfl
    · exact parse_render_append hcanonical (d := .comma) rfl (Or.inl rfl) junk.toList
    · exact parse_render_append hcanonical (d := .closer) rfl (Or.inr rfl) junk.toList
    · exact parse_render_append hcanonical (d := .closer) rfl (Or.inr rfl) junk.toList

/-- Pages of lists of users, with closers of either kind behind the text, and with a comma and more text behind the
canonical spelling. -/
theorem parse_lenient_pages :
    parse (some "models") ("Page«List«models.User" ++ ">»>") = parse (some "models") "Page«List«models.User" ∧
    parse none "Page«List«User" = generic "Page" [array (model "User")] ∧
    parse none ("Page<Array<User>>" ++ "," ++ " of «") = generic "Page" [array (model "User")] := by
  have hpages : parse none "Page«List«User" = generic "Page" [array (model "User")] := by decide
  refine ⟨parse_lenient.1 (some "models") "Page«List«models.User" ['>', '»', '>'] (by simp), hpages, ?_⟩
  have hmore := parse_lenient.2 "Page«List«User" ',' " of «" (Or.inl rfl)
  rwa [hpages] at hmore

end ApiOutline.TypeExpr
