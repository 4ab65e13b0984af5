import ApiOutline.Naming.Words

/-!
# Words as a cut of the text

The words of a text are what is kept of it, cut into stretches.  Nothing is lost between two words, no word is empty,
and whether two neighbours are parted is decided by them and the character behind them alone.

The words are found from the end of the text: a character either goes on with the first of the words behind it or is a
word of its own.  So what is said about two neighbours is shown by going back from them to the beginning of the text,
and each character met on the way leaves the place between them as it is.

* `flatten_words`: the words spell what is kept.
* `Parted`: a list of words that is cut at a place.
* `parted_words_iff`: where the words of a text are cut.
* `words_segmentation`: the main statement.
-/

namespace ApiOutline.Naming

variable {c a b : Char} {text rest gap before after front back w : List Char} {ws : List (List Char)}

/-! ## What the words spell -/

theorem flatten_extend (c : Char) (ws : List (List Char)) : (extend c ws).flatten = c :: ws.flatten := by
  cases ws <;> rfl

theorem nil_notMem_extend (h : [] ∉ ws) : [] ∉ extend c ws := by
  cases ws with
  | nil => simp [extend]
  | cons w ws =>
    rw [extend, List.mem_cons, not_or]
    exact ⟨(List.cons_ne_nil _ _).symm, fun hmem => h (List.mem_cons_of_mem _ hmem)⟩

/-- No word is empty. -/
theorem nil_notMem_words (text : List Char) : [] ∉ words text := by
  induction text with
  | nil => simp
  | cons c rest ih =>
    rw [words_cons]
    split
    · exact ih
    split
    · exact nil_notMem_extend ih
    · rw [List.mem_cons, not_or]
      exact ⟨(List.cons_ne_nil _ _).symm, ih⟩

/-- **The words spell the letters and numerals of the text in their order.** -/
theorem flatten_words (text : List Char) : (words text).flatten = text.filter isWordChar := by
  induction text with
  | nil => rfl
  | cons c rest ih =>
    rw [words_cons, List.filter_cons]
    cases hc : isWordChar c with
    | false => simpa using ih
    | true =>
      simp only [Bool.not_true, Bool.false_eq_true, if_false, if_true]
      split
      · rw [flatten_extend, ih]
      · rw [List.flatten_cons, ih, List.singleton_append]

theorem isWordChar_of_mem_words (hw : w ∈ words text) (hc : c ∈ w) : isWordChar c = true := by
  have hmem : c ∈ text.filter isWordChar := flatten_words text ▸ List.mem_flatten_of_mem hw hc
  exact (List.mem_filter.mp hmem).2

/-! ## Where the words are cut -/

/-- The words are cut between the characters `front` and the characters `back`: some of them spell the former, the
others the latter. -/
def Parted (ws : List (List Char)) (front back : List Char) : Prop :=
  ∃ us vs, ws = us ++ vs ∧ us.flatten = front ∧ vs.flatten = back

/-- A word of its own at the front leaves the other cuts as they are. -/
theorem parted_singleton_cons_iff (hfront : front ≠ []) :
    Parted ([c] :: ws) (c :: front) back ↔ Parted ws front back := by
  constructor
  · rintro ⟨us, vs, hws, hus, hvs⟩
    cases us with
    | nil => exact absurd hus (List.cons_ne_nil _ _).symm
    | cons u us =>
      rw [List.cons_append, List.cons.injEq] at hws
      obtain ⟨rfl, rfl⟩ := hws
      exact ⟨us, vs, rfl, by simpa using hus, hvs⟩
  · rintro ⟨us, vs, rfl, rfl, hvs⟩
    exact ⟨[c] :: us, vs, rfl, rfl, hvs⟩

/-- A first word that becomes longer leaves the other cuts as they are. -/
theorem parted_extend_iff (hfront : front ≠ []) :
    Parted (extend c ws) (c :: front) back ↔ Parted ws front back := by
  constructor
  · rintro ⟨us, vs, hws, hus, hvs⟩
    cases us with
    | nil => exact absurd hus (List.cons_ne_nil _ _).symm
    | cons u us =>
      rw [List.cons_append] at hws
      cases ws with
      | nil =>
        rw [extend, List.cons.injEq] at hws
        obtain ⟨rfl, hnil⟩ := hws
        obtain ⟨rfl, -⟩ := List.append_eq_nil_iff.mp hnil.symm
        exact absurd (by simpa using hus.symm) hfront
      | cons w ws =>
        rw [extend, List.cons.injEq] at hws
        obtain ⟨rfl, rfl⟩ := hws
        exact ⟨w :: us, vs, rfl, by simpa using hus, hvs⟩
  · rintro ⟨us, vs, rfl, hus, hvs⟩
    cases us with
    | nil => exact absurd hus.symm hfront
    | cons u us => exact ⟨(c :: u) :: us, vs, rfl, by simpa using hus, hvs⟩

/-- Between a character and the word it goes on with there is no cut. -/
theorem not_parted_extend (hnil : [] ∉ ws) (hne : ws ≠ []) : ¬ Parted (extend c ws) [c] back := by
  obtain ⟨w, ws, rfl⟩ := List.exists_cons_of_ne_nil hne
  rintro ⟨us, vs, hws, hus, -⟩
  cases us with
  | nil => exact absurd hus (List.cons_ne_nil _ _).symm
  | cons u us =>
    rw [extend, List.cons_append, List.cons.injEq] at hws
    obtain ⟨rfl, -⟩ := hws
    rw [List.flatten_cons, List.cons_append, List.cons.injEq] at hus
    exact hnil (List.append_eq_nil_iff.mp hus.2 |>.1 ▸ List.mem_cons_self)

/-- Whether a word goes on, when the next character that is kept is `b`. -/
theorem continues_eq_false_iff (hb : isWordChar b = true) (hgap : ∀ c ∈ gap, isWordChar c = false) :
    continues a (gap ++ b :: after) = false ↔ gap ≠ [] ∨ edge a b (after.head?.filter isWordChar) = true := by
  cases gap with
  | nil => simp [continues, hb]
  | cons c gap => simp [continues, hgap c List.mem_cons_self]

/-- Two neighbours at the beginning of a text. -/
theorem parted_words_cons_iff (ha : isWordChar a = true) (hb : isWordChar b = true)
    (hgap : ∀ c ∈ gap, isWordChar c = false) :
    Parted (words (a :: (gap ++ b :: after))) [a] ((b :: after).filter isWordChar) ↔
      gap ≠ [] ∨ edge a b (after.head?.filter isWordChar) = true := by
  have hkept : (gap ++ b :: after).filter isWordChar = (b :: after).filter isWordChar := by
    rw [List.filter_append, List.filter_eq_nil_iff.mpr (by simpa using hgap), List.nil_append]
  have hflatten : (words (gap ++ b :: after)).flatten = (b :: after).filter isWordChar := by
    rw [flatten_words, hkept]
  rw [← continues_eq_false_iff hb hgap, words_cons, ha]
  simp only [Bool.not_true, Bool.false_eq_true, if_false]
  split
  · next hcontinues =>
    have hne : words (gap ++ b :: after) ≠ [] := by
      intro hnil
      rw [hnil, List.filter_cons_of_pos hb] at hflatten
      exact absurd hflatten (List.cons_ne_nil _ _).symm
    simp [hcontinues, not_parted_extend (nil_notMem_words _) hne]
  · next hcontinues =>
    simp only [hcontinues, iff_true]
    exact ⟨[[a]], words (gap ++ b :: after), rfl, rfl, hflatten⟩

/-- **Where the words of a text are cut.**  Two characters that are kept one after the other are parted by what stands
between them, or else by an edge. -/
theorem parted_words_iff (ha : isWordChar a = true) (hb : isWordChar b = true)
    (hgap : ∀ c ∈ gap, isWordChar c = false) :
    Parted (words (before ++ a :: (gap ++ b :: after))) ((before ++ [a]).filter isWordChar)
        ((b :: after).filter isWordChar) ↔
      gap ≠ [] ∨ edge a b (after.head?.filter isWordChar) = true := by
  induction before with
  | nil => simpa [ha] using parted_words_cons_iff ha hb hgap
  | cons c before ih =>
    have hfront : (before ++ [a]).filter isWordChar ≠ [] := by simp [ha]
    rw [List.cons_append, List.cons_append, words_cons, List.filter_cons]
    cases hc : isWordChar c with
    | false => simpa using ih
    | true =>
      simp only [Bool.not_true, Bool.false_eq_true, if_false, if_true]
      split
      · rw [parted_extend_iff hfront, ih]
      · rw [parted_singleton_cons_iff hfront, ih]

/-- **The words of a text are a cut of what is kept of it.**  No word is empty, and together the words spell the letters
and numerals of the text in their order.  Two of these that follow each other are in different words if and only if
something else stands between them, or `edge` holds for them and the character behind them that is kept with them. -/
theorem words_segmentation (text : List Char) :
    (∀ w ∈ words text, w ≠ []) ∧ (words text).flatten = text.filter isWordChar ∧
      ∀ before a gap b after, text = before ++ a :: (gap ++ b :: after) →
        isWordChar a = true → isWordChar b = true → (∀ c ∈ gap, isWordChar c = false) →
        (Parted (words text) ((before ++ [a]).filter isWordChar) ((b :: after).filter isWordChar) ↔
          gap ≠ [] ∨ edge a b (after.head?.filter isWordChar) = true) := by
  refine ⟨fun w hw hnil => nil_notMem_words text (hnil ▸ hw), flatten_words text, ?_⟩
  rintro before a gap b after rfl ha hb hgap
  exact parted_words_iff ha hb hgap

/-- The end of a run of capitals: `XMLHttp` is cut between the `L` and the `H`. -/
theorem words_segmentation_acronym :
    isWordChar 'L' = true ∧ isWordChar 'H' = true ∧
      (Parted (words "XMLHttp 2".toList) "XML".toList "Http2".toList ↔
        ([] : List Char) ≠ [] ∨ edge 'L' 'H' (some 't') = true) := by
  refine ⟨by decide +kernel, by decide +kernel, ?_⟩
  have h := (words_segmentation "XMLHttp 2".toList).2.2 ['X', 'M'] 'L' [] 'H' "ttp 2".toList rfl
    (by decide +kernel) (by decide +kernel) (by simp)
  have hfront : (['X', 'M'] ++ ['L']).filter isWordChar = "XML".toList := by decide +kernel
  have hback : ('H' :: "ttp 2".toList).filter isWordChar = "Http2".toList := by decide +kernel
  have hnext : "ttp 2".toList.head?.filter isWordChar = some 't' := by decide +kernel
  rwa [hfront, hback, hnext] at h

end ApiOutline.Naming
