import ApiOutline.Proofs.Text.ByteOrder
import ApiOutline.Proofs.TypeExpr.Names

/-!
# The names in a key

The names in a key can be found without reading it as a type: they are what stands between its delimiters, white space
apart.  The tokens of the key hold the same names in the same order, and a type is read from the tokens.  So the names
cover all models that the type mentions, however the key is spaced, and also if closers are missing or there are too
many.  The converse does not hold: the names of builtins are names in a key, and so are those in arguments that reading
drops and in text that it does not come to.

* `isDelimiter`, `stretches`: what stands between the delimiters of a text.
* `filterMap_name?_scanFrom`: the names among the tokens of a text.
* `keyNames_eq_stretches`, `nodup_keyNames`, `tidy_of_mem_keyNames`: the names in a key.
* `keyNames_cover_parse`: the main statement.
-/

namespace ApiOutline

open TypeExpr Token Text

/-! ## Stretches between delimiters -/

/-- The characters that divide a key. -/
def isDelimiter (c : Char) : Bool :=
  ['«', '»', '<', '>', ','].contains c

/-- The stretches of a text between its delimiters, without white space at their ends. -/
def stretches (text : String) : List String :=
  (text.toList.splitOnP isDelimiter).map fun part => String.ofList (trimChars part)

theorem isDelimiter_eq_false_iff {c : Char} : isDelimiter c = false ↔ delimiter? c = none := by
  rw [delimiter?_eq_none_iff, isDelimiter, List.contains_eq_mem, decide_eq_false_iff_not]

theorem isDelimiter_of_delimiter? {c : Char} {d : Token} (h : delimiter? c = some d) : isDelimiter c = true := by
  rw [← Bool.not_eq_false, isDelimiter_eq_false_iff, h]
  exact Option.some_ne_none d

theorem TypeExpr.Token.Plain.isDelimiter_eq_false {cs : List Char} (h : Plain cs) : ∀ c ∈ cs, isDelimiter c = false :=
  fun c hc => isDelimiter_eq_false_iff.mpr (h c hc)

/-- What is read of a stretch without delimiters is its text without the white space, if that leaves any. -/
theorem filterMap_name?_ofName (part : List Char) :
    (ofName part).filterMap name? = [String.ofList (trimChars part)].filter (· ≠ "") := by
  by_cases h : trimChars part = []
  · rw [ofName_of_trimChars_eq_nil h, h]
    rfl
  · have hne : String.ofList (trimChars part) ≠ "" := mt String.ofList_eq_empty_iff.mp h
    rw [ofName_of_trimChars_ne_nil h, List.filter_cons_of_pos (by simpa using hne)]
    rfl

/-- **The names among the tokens of a text are its stretches.**  What has been read of a name belongs to the first
stretch, which goes up to the next delimiter. -/
theorem filterMap_name?_scanFrom : ∀ {pending cs : List Char}, Plain pending →
    (scanFrom pending cs).filterMap name? =
      (((pending.reverse ++ cs).splitOnP isDelimiter).map fun part => String.ofList (trimChars part)).filter (· ≠ "")
  | pending, [], hpending => by
    rw [scanFrom_nil, List.append_nil, List.splitOnP_eq_singleton hpending.reverse.isDelimiter_eq_false,
      filterMap_name?_ofName, List.map_singleton]
  | pending, c :: cs, hpending => by
    rw [scanFrom_cons]
    cases hc : delimiter? c with
    | none =>
      dsimp only
      rw [filterMap_name?_scanFrom (hpending.cons hc), List.reverse_cons, List.append_assoc, List.singleton_append]
    | some d =>
      have hd : name? d = none := by
        cases d with
        | name n => exact absurd hc (delimiter?_ne_name c n)
        | _ => rfl
      have hsplit := List.splitOnP_append_cons_of_forall_mem hpending.reverse.isDelimiter_eq_false c
        (isDelimiter_of_delimiter? hc) cs
      dsimp only
      rw [hsplit, List.map_cons, List.filterMap_append, filterMap_name?_ofName, List.filterMap_cons_none hd,
        filterMap_name?_scanFrom plain_nil, List.reverse_nil, List.nil_append, ← List.filter_append,
        List.singleton_append]

/-! ## The names in a key -/

/-- The names in a key are its stretches, but for empty ones, each once. -/
theorem keyNames_eq_stretches (key : String) : keyNames key = ((stretches key).filter (· ≠ "")).eraseDups := by
  rw [keyNames, scan, filterMap_name?_scanFrom plain_nil]
  rfl

theorem nodup_keyNames (key : String) : (keyNames key).Nodup :=
  nodup_eraseDups _

/-- The names in a key are tidy. -/
theorem tidy_of_mem_keyNames {key n : String} (h : n ∈ keyNames key) : Tidy n.toList := by
  rw [keyNames, List.mem_eraseDups, List.mem_filterMap] at h
  obtain ⟨t, ht, hn⟩ := h
  cases t with
  | name text =>
    obtain rfl := Option.some.inj hn
    exact tidy_of_mem_scan ht
  | _ => exact absurd hn (by simp [name?])

/-- **The names in a key cover the models that it mentions.**  They are the stretches between the delimiters of the key,
without empty ones and each once, in the order in which they come first.  So none occurs twice, and each is a text that
is not empty, holds no delimiter and has no white space at its ends.  Every model in the type that the key is read as is
one of them, and if the key is generic, every such model but its own is abstracted. -/
theorem keyNames_cover_parse (key : String) :
    keyNames key = ((stretches key).filter (· ≠ "")).eraseDups ∧
    (keyNames key).Nodup ∧
    (∀ n ∈ keyNames key, n ≠ "" ∧ trim n = n ∧ ∀ c ∈ n.toList, isDelimiter c = false) ∧
    (∀ n ∈ (parse none key).modelNames, n ∈ keyNames key) ∧
    ∀ g, GenericKey.ofKey? key = some g → ∀ n ∈ (parse none key).modelNames, n ≠ g.model → n ∈ g.names := by
  have hcover : ∀ n ∈ (parse none key).modelNames, n ∈ keyNames key := fun n hn => mem_keyNames_of_mem_parse hn
  refine ⟨keyNames_eq_stretches key, nodup_keyNames key, fun n hn => ?_, hcover, fun g hg n hn hne => ?_⟩
  · have htidy : Tidy n.toList := tidy_of_mem_keyNames hn
    refine ⟨fun hempty => htidy.ne_nil (String.toList_eq_nil_iff.mpr hempty), ?_, fun c hc => ?_⟩
    · rw [trim, htidy.trimmed, String.ofList_toList]
    · exact isDelimiter_eq_false_iff.mpr (htidy.plain c hc)
  · exact (GenericKey.mem_names_iff hg).mpr ⟨hcover n hn, hne⟩

/-- Pages of lists and maps, with white space around the names and with more behind the page.  The names hold the aliases
of the builtins and what is not read any more; the models are the page, the order and the box. -/
theorem keyNames_cover_parse_pages :
    let key := "Page« List<Order >,Map«string,Box»»»,Rest"
    let g : GenericKey := ⟨"Page", [.array (.model "Order"), .map (.scalar .string) (.model "Box")],
      ["List", "Order", "Map", "string", "Box", "Rest"]⟩
    keyNames key = ["Page", "List", "Order", "Map", "string", "Box", "Rest"] ∧
      ("Order" ∈ keyNames key ∧ "Order" ≠ "" ∧ trim "Order" = "Order" ∧ ∀ c ∈ "Order".toList, isDelimiter c = false) ∧
      (parse none key).modelNames = ["Page", "Order", "Box"] ∧ "Box" ∈ keyNames key ∧
      GenericKey.ofKey? key = some g ∧ "Box" ≠ g.model ∧ "Box" ∈ g.names := by
  intro key g
  have hnames : keyNames key = ["Page", "List", "Order", "Map", "string", "Box", "Rest"] := by decide +kernel
  have hmodels : (parse none key).modelNames = ["Page", "Order", "Box"] := by decide +kernel
  have hgeneric : GenericKey.ofKey? key = some g := by decide +kernel
  have horder : "Order" ∈ keyNames key := by rw [hnames]; decide
  have hbox : "Box" ∈ (parse none key).modelNames := by rw [hmodels]; decide
  have hother : "Box" ≠ g.model := by decide
  obtain ⟨-, -, htidy, hcover, habstracted⟩ := keyNames_cover_parse key
  exact ⟨hnames, ⟨horder, htidy _ horder⟩, hmodels, hcover _ hbox, hgeneric, hother,
    habstracted g hgeneric _ hbox hother⟩

end ApiOutline
