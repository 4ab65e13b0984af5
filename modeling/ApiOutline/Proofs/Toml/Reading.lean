import ApiOutline.Proofs.Decimal.Digits
import ApiOutline.Proofs.Toml.Token
import ApiOutline.Toml.Reading

/-!
# Reading written documents

A written document is read as the sections it was written from.  The tokens of a text and what is put together from
them are followed at once: reading starts from a draft, from what is due, and from a place between two tokens, and each
part of a document that is written there takes it to a place of the same kind behind that part.

This is shown for the documents that settings are saved in.  Their keys are single ones, their headings are made of bare
names, and their values are texts, natural numbers, truth values, and arrays of these.

* `readFrom`: reading the rest of a text.
* `Value.IsAtom`, `Value.IsFlat`, `Pair.IsFlat`, `Section.IsFlat`: the values, pairs and sections meant.
* `readFrom_value`, `readFrom_pair`, `readFrom_section`: what is written for each of them.
* `sections?_write`: the main statement.
-/

namespace ApiOutline.Toml

/-! ## Reading the rest of a text -/

/-- Reads the rest of a text, whose last line need not be ended. -/
def readFrom (d : Draft) (due : Due) (state : Lexer) (text : List Char) : Option (Draft × Due) :=
  assemble d due (state.scanFrom text ++ [⟨.nothing, .newLine⟩])

variable {d d' : Draft} {due due' : Due} {state state' : Lexer} {gap : Gap} {c : Char} {rest text text' : List Char}

/-- A token is read, and a step is done with it. -/
theorem readFrom_of_scanFrom {l : Lexeme} (hscan : state.scanFrom text = l :: state'.scanFrom text')
    (hstep : step d l due = some (d', due')) : readFrom d due state text = readFrom d' due' state' text' := by
  rw [readFrom, hscan, List.cons_append, assemble, hstep]
  rfl

theorem readFrom_punctuation {t : Token} (hc : punctuation? c = some t)
    (hstep : step d ⟨gap, t⟩ due = some (d', due')) (rest : List Char) :
    readFrom d due (.idle gap) (c :: rest) = readFrom d' due' (.idle .nothing) rest :=
  readFrom_of_scanFrom (Lexer.scanFrom_punctuation hc gap rest) hstep

theorem readFrom_space (d : Draft) (due : Due) (gap : Gap) (rest : List Char) :
    readFrom d due (.idle gap) (' ' :: rest) = readFrom d due (.idle (gap.add ' ')) rest := rfl

/-! ## Single values -/

/-- The values that are written as one token: texts, natural numbers that are not too large, and truth values. -/
def Value.IsAtom : Value → Prop
  | .text _ | .bool _ => True
  | .integer i => 0 ≤ i ∧ i ≤ integerMax
  | _ => False

/-- A word of digits is no date. -/
theorem isDate_eq_false (h : ∀ c ∈ text, c ≠ '-') : Moment.isDate text = false := by
  unfold Moment.isDate
  split
  · exact absurd rfl (h '-' (by simp))
  · rfl

theorem ungroup?_of_isDigit {digits : List Char} (hne : digits ≠ []) (h : ∀ c ∈ digits, c.isDigit = true) :
    ungroup? Char.isDigit digits = some digits := by
  induction digits with
  | nil => exact absurd rfl hne
  | cons c digits ih =>
    obtain ⟨hc, hdigits⟩ := List.forall_mem_cons.mp h
    cases digits with
    | nil => simp [ungroup?, hc]
    | cons d digits =>
      have hd : d ≠ '_' := by
        rintro rfl
        exact absurd (hdigits '_' List.mem_cons_self) (by decide)
      rw [ungroup?.eq_4 _ _ _ (by simp) (by rintro _ ⟨rfl, -⟩; exact hd rfl), if_pos hc, ih (by simp) hdigits]
      rfl

/-- The digits of a natural number are read as that number. -/
theorem integer?_toDigits (n : Nat) : integer? (Nat.toDigits 10 n) = some (n : Int) := by
  by_cases hzero : n = 0
  · subst hzero
    rfl
  · obtain ⟨c, cs, hcons, hc⟩ := Decimal.exists_toDigits (Nat.pos_of_ne_zero hzero)
    have hdigits : ∀ d ∈ c :: cs, d.isDigit = true := fun d hd => Decimal.isDigit_of_mem_toDigits (hcons ▸ hd)
    have hne : ∀ d : Char, d.isDigit = false → c ≠ d := by
      rintro d hd rfl
      exact absurd (hdigits c List.mem_cons_self) (by simp [hd])
    have hwhole : whole? (c :: cs) = some (c :: cs) := by
      simp [whole?, ungroup?_of_isDigit (List.cons_ne_nil c cs) hdigits, hc]
    have hnatural : natural? (c :: cs) = some n := by
      rw [natural?.eq_4 _ (by simp [hc]) (by simp [hc]) (by simp [hc]), hwhole, Option.map_some, ← hcons,
        Decimal.valueOf_toDigits]
    rw [hcons, integer?.eq_3 _ (by simp [hne '-' rfl]) (by simp [hne '+' rfl]), hnatural]
    rfl

theorem ofWord?_toDigits {n : Nat} (h : n ≤ integerMax) : Value.ofWord? (Nat.toDigits 10 n) = some (.integer n) := by
  have hdigits : ∀ w : List Char, (∃ c ∈ w, c.isDigit = false) → Nat.toDigits 10 n ≠ w := by
    rintro w ⟨c, hc, hdigit⟩ rfl
    exact absurd (Decimal.isDigit_of_mem_toDigits hc) (by simp [hdigit])
  have hrange : -(integerMax : Int) - 1 ≤ (n : Int) ∧ (n : Int) ≤ integerMax := by omega
  rw [Value.ofWord?, if_neg (hdigits _ ⟨'t', by simp, rfl⟩), if_neg (hdigits _ ⟨'f', by simp, rfl⟩), integer?_toDigits]
  exact if_pos hrange

/-- The characters that stand behind a value in a document. -/
def IsEnd (c : Char) : Prop :=
  c = '\n' ∨ c = ',' ∨ c = ']'

theorem IsEnd.not_isWordChar (h : IsEnd c) : isWordChar c = false := by
  rcases h with rfl | rfl | rfl <;> rfl

theorem IsEnd.ne_mark (h : IsEnd c) : c ≠ '"' ∧ c ≠ '\'' := by
  rcases h with rfl | rfl | rfl <;> decide

theorem stepValue_word (hdate : Moment.isDate text = false) {v : Value} (hv : Value.ofWord? text = some v)
    (key : List String) (frames : List Frame) : stepValue key frames (.word text) = some (.after key frames v) := by
  rw [stepValue, hdate, hv]
  rfl

/-- A token is what is read from a value, and it stands for the value wherever one is due. -/
structure Value.IsReadAs (v : Value) (t : Token) : Prop where
  notNewLine : t ≠ .newLine
  notCloseBracket : t ≠ .closeBracket
  stepValue : ∀ key frames, stepValue key frames t = some (.after key frames v)
  scanFrom : ∀ gap c rest, IsEnd c →
    (Lexer.idle gap).scanFrom (v.write ++ c :: rest) = ⟨gap, t⟩ :: (Lexer.idle .nothing).scanFrom (c :: rest)

variable {v : Value}

theorem Value.isReadAs_word (hne : text ≠ []) (htext : (text.all fun c => isWordChar c && c != '-') = true)
    (hv : Value.ofWord? text = some v) (hwrite : v.write = text) : v.IsReadAs (.word text) := by
  have hchars : ∀ c ∈ text, isWordChar c = true ∧ c ≠ '-' := by simpa using htext
  refine ⟨by simp, by simp, stepValue_word (isDate_eq_false fun c hc => (hchars c hc).2) hv, ?_⟩
  intro gap c rest hc
  rw [hwrite, Lexer.scanFrom_word hne (fun c hc => (hchars c hc).1) hc.not_isWordChar]

/-- **A single value is read as one token.** -/
theorem Value.exists_isReadAs (hv : v.IsAtom) : ∃ t, v.IsReadAs t := by
  cases v with
  | text s =>
    refine ⟨.text s (Form.of s.toList).isLong, by simp, by simp, fun _ _ => rfl, fun gap c rest hc => ?_⟩
    rw [Value.write, scanFrom_writeText s hc.ne_mark]
  | integer i =>
    obtain ⟨n, rfl⟩ := Int.eq_ofNat_of_zero_le hv.1
    have hn : n ≤ integerMax := by exact_mod_cast hv.2
    have hwrite : (Value.integer n).write = Nat.toDigits 10 n := by
      rw [Value.write, ← Decimal.toList_toString]
      rfl
    refine ⟨_, isReadAs_word Nat.toDigits_ne_nil (List.all_eq_true.mpr fun c hc => ?_) (ofWord?_toDigits hn) hwrite⟩
    have hdigit := Decimal.isDigit_of_mem_toDigits hc
    have hminus : c ≠ '-' := by
      rintro rfl
      exact absurd hdigit (by decide)
    simp [isWordChar, isBare, Char.isAlphanum, hdigit, hminus]
  | bool b =>
    cases b with
    | true => exact ⟨_, isReadAs_word (List.cons_ne_nil 't' ['r', 'u', 'e']) (by decide) rfl rfl⟩
    | false => exact ⟨_, isReadAs_word (List.cons_ne_nil 'f' ['a', 'l', 's', 'e']) (by decide) rfl rfl⟩
  | moment | floating | array | table => exact hv.elim

theorem readFrom_atom (hv : v.IsAtom) (hc : IsEnd c) (d : Draft) (key : List String) (frames : List Frame) (gap : Gap)
    (rest : List Char) :
    readFrom d (.value key frames) (.idle gap) (v.write ++ c :: rest) =
      readFrom d (.after key frames v) (.idle .nothing) (c :: rest) := by
  obtain ⟨t, ht⟩ := Value.exists_isReadAs hv
  exact readFrom_of_scanFrom (ht.scanFrom gap c rest hc) (by rw [step, ht.stepValue]; rfl)

theorem readFrom_item (hv : v.IsAtom) (hc : IsEnd c) (d : Draft) (key : List String) (frames : List Frame)
    (items : List Value) (gap : Gap) (rest : List Char) :
    readFrom d (.item key frames items) (.idle gap) (v.write ++ c :: rest) =
      readFrom d (.after key (.array items :: frames) v) (.idle .nothing) (c :: rest) := by
  obtain ⟨t, ht⟩ := Value.exists_isReadAs hv
  refine readFrom_of_scanFrom (ht.scanFrom gap c rest hc) ?_
  rw [step.eq_def]
  cases t with
  | newLine => exact absurd rfl ht.notNewLine
  | closeBracket => exact absurd rfl ht.notCloseBracket
  | _ => simp [ht.stepValue]

/-! ## Arrays -/

/-- The values that settings have: single ones, and arrays of these. -/
def Value.IsFlat : Value → Prop
  | .array items => ∀ v ∈ items, v.IsAtom
  | v => v.IsAtom

/-- The items of an array that has a line for each of them. -/
theorem readFrom_writeItems {items : List Value} (h : ∀ v ∈ items, v.IsAtom) (d : Draft) (key : List String)
    (frames : List Frame) (before : List Value) (rest : List Char) :
    readFrom d (.item key frames before) (.idle .nothing) (writeItems items ++ '\n' :: ']' :: rest) =
      readFrom d (.after key frames (.array (before.reverse ++ items))) (.idle .nothing) rest := by
  induction items generalizing before with
  | nil =>
    rw [writeItems, List.nil_append, readFrom_punctuation (t := .newLine) rfl rfl,
      readFrom_punctuation (t := .closeBracket) rfl rfl, List.append_nil]
  | cons v items ih =>
    obtain ⟨hv, hitems⟩ := List.forall_mem_cons.mp h
    simp only [writeItems, List.cons_append, List.append_assoc]
    rw [readFrom_punctuation (t := .newLine) rfl rfl]
    simp only [readFrom_space]
    rw [readFrom_item hv (.inr (.inl rfl)), readFrom_punctuation (t := .comma) rfl rfl, ih hitems, List.reverse_cons,
      List.append_assoc]
    rfl

/-- **What is written for a value is read as that value.** -/
theorem readFrom_value (hv : v.IsFlat) (d : Draft) (key : List String) (gap : Gap) (rest : List Char) :
    readFrom d (.value key []) (.idle gap) (v.write ++ '\n' :: rest) =
      readFrom (d.add key v) .line (.idle .nothing) rest := by
  have hend : ∀ v, readFrom d (.after key [] v) (.idle .nothing) ('\n' :: rest) =
      readFrom (d.add key v) .line (.idle .nothing) rest := fun v =>
    readFrom_punctuation (t := .newLine) rfl rfl rest
  cases v with
  | array items =>
    have hopen : ∀ text, readFrom d (.value key []) (.idle gap) ('[' :: text) =
        readFrom d (.item key [] []) (.idle .nothing) text := readFrom_punctuation (t := .openBracket) rfl rfl
    match items, hv with
    | [], _ =>
      rw [Value.write, List.cons_append, List.cons_append, hopen, readFrom_punctuation (t := .closeBracket) rfl rfl]
      exact hend _
    | [item], hv =>
      rw [Value.write, List.cons_append, List.cons_append, List.append_assoc, hopen, List.singleton_append,
        readFrom_item (hv item List.mem_cons_self) (.inr (.inr rfl)),
        readFrom_punctuation (t := .closeBracket) rfl rfl]
      exact hend _
    | item :: next :: items, hv =>
      rw [Value.write, List.cons_append, List.cons_append, List.append_assoc, hopen]
      · simp only [List.cons_append, List.nil_append]
        rw [readFrom_writeItems hv]
        exact hend _
      · simp
      · simp
  | text | integer | bool | moment | floating | table =>
    refine (readFrom_atom ?_ (.inl rfl) d key [] gap rest).trans (hend _)
    exact hv

/-! ## Keys -/

/-- A name that is written without quotation marks. -/
def IsBareName (name : String) : Prop :=
  name ≠ "" ∧ ∀ c ∈ name.toList, isBare c = true

instance (name : String) : Decidable (IsBareName name) :=
  decidable_of_iff (name ≠ "" ∧ name.toList.all isBare = true) (and_congr_right fun _ => List.all_eq_true)

theorem IsBareName.toList_ne_nil {name : String} (h : IsBareName name) : name.toList ≠ [] := fun hnil =>
  h.1 (String.toList_eq_nil_iff.mp hnil)

theorem isWordChar_of_isBare (h : isBare c = true) : isWordChar c = true := by
  simp [isWordChar, h]

theorem ne_dot_of_isBare (h : isBare c = true) : c ≠ '.' := by
  rintro rfl
  exact absurd h (by decide)

theorem piecesOf_bare_append {cs : List Char} (hne : cs ≠ []) (hcs : ∀ c ∈ cs, isBare c = true)
    (hrest : ∀ chars pieces, piecesOf rest ≠ .name chars :: pieces) :
    piecesOf (cs ++ rest) = .name cs :: piecesOf rest := by
  induction cs with
  | nil => exact absurd rfl hne
  | cons c cs ih =>
    obtain ⟨hc, hcs⟩ := List.forall_mem_cons.mp hcs
    rw [List.cons_append, piecesOf.eq_3 _ _ (ne_dot_of_isBare hc)]
    cases cs with
    | nil =>
      rw [List.nil_append]
      split
      · next chars pieces heq => exact absurd heq (hrest chars pieces)
      · rfl
    | cons d ds => rw [ih (by simp) hcs]

theorem piecesOf_bare {cs : List Char} (hne : cs ≠ []) (hcs : ∀ c ∈ cs, isBare c = true) : piecesOf cs = [.name cs] := by
  have h : piecesOf (cs ++ []) = .name cs :: piecesOf [] := piecesOf_bare_append hne hcs (by simp [piecesOf])
  rwa [List.append_nil, piecesOf] at h

theorem writeKeyPart_of_isBareName {name : String} (h : IsBareName name) : writeKeyPart name = name.toList := by
  have hbare : name.toList.all isBare = true := List.all_eq_true.mpr h.2
  simp [writeKeyPart, h.toList_ne_nil, hbare]

theorem writeKey_singleton (part : String) : writeKey [part] = writeKeyPart part := by
  simp [writeKey]

theorem writeKey_cons_cons (part next : String) (parts : List String) :
    writeKey (part :: next :: parts) = writeKeyPart part ++ '.' :: writeKey (next :: parts) := by
  simp [writeKey, List.intercalate_cons_cons]

/-- The pieces of a key made of bare names are those names, with dots between them. -/
theorem partsOf?_piecesOf_writeKey {path : List String} (hne : path ≠ []) (h : ∀ name ∈ path, IsBareName name) :
    partsOf? (piecesOf (writeKey path)) = some path := by
  induction path with
  | nil => exact absurd rfl hne
  | cons name path ih =>
    obtain ⟨hname, hpath⟩ := List.forall_mem_cons.mp h
    cases path with
    | nil =>
      rw [writeKey_singleton, writeKeyPart_of_isBareName hname, piecesOf_bare hname.toList_ne_nil hname.2, partsOf?,
        String.ofList_toList]
    | cons next path =>
      rw [writeKey_cons_cons, writeKeyPart_of_isBareName hname,
        piecesOf_bare_append hname.toList_ne_nil hname.2 (by simp [piecesOf]), piecesOf, partsOf?,
        ih (by simp) hpath, String.ofList_toList]
      rfl

theorem forall_mem_writeKey {path : List String} (h : ∀ name ∈ path, IsBareName name) :
    ∀ c ∈ writeKey path, isBare c = true ∨ c = '.' := by
  induction path with
  | nil => simp [writeKey]
  | cons name path ih =>
    obtain ⟨hname, hpath⟩ := List.forall_mem_cons.mp h
    cases path with
    | nil =>
      rw [writeKey_singleton, writeKeyPart_of_isBareName hname]
      exact fun c hc => .inl (hname.2 c hc)
    | cons next path =>
      rw [writeKey_cons_cons, writeKeyPart_of_isBareName hname, List.forall_mem_append, List.forall_mem_cons]
      exact ⟨fun c hc => .inl (hname.2 c hc), .inr rfl, ih hpath⟩

theorem writeKey_ne_nil {path : List String} (hne : path ≠ []) (h : ∀ name ∈ path, IsBareName name) :
    writeKey path ≠ [] := by
  obtain ⟨name, path, rfl⟩ := List.exists_cons_of_ne_nil hne
  have hname := h name List.mem_cons_self
  cases path with
  | nil =>
    rw [writeKey_singleton, writeKeyPart_of_isBareName hname]
    exact hname.toList_ne_nil
  | cons next path =>
    rw [writeKey_cons_cons]
    simp

/-- **A single key is read as one token**, whose pieces are the key. -/
theorem exists_keyToken (key : String) :
    ∃ t, (t ≠ .newLine ∧ t ≠ .openBracket) ∧ t.pieces? = some [.name key.toList] ∧
      ∀ gap rest, (Lexer.idle gap).scanFrom (writeKeyPart key ++ ' ' :: rest) =
        ⟨gap, t⟩ :: (Lexer.idle .nothing).scanFrom (' ' :: rest) := by
  by_cases hkey : IsBareName key
  · refine ⟨.word key.toList, by simp, ?_, fun gap rest => ?_⟩
    · have hall : (key.toList.all fun c => isBare c || c = '.') = true :=
        List.all_eq_true.mpr fun c hc => by simp [hkey.2 c hc]
      rw [Token.pieces?, piecesOf?, if_pos hall, piecesOf_bare hkey.toList_ne_nil hkey.2]
    · rw [writeKeyPart_of_isBareName hkey]
      exact Lexer.scanFrom_word hkey.toList_ne_nil (fun c hc => isWordChar_of_isBare (hkey.2 c hc)) rfl gap rest
  · have hquoted : writeKeyPart key = (Form.ofKey key.toList).write key.toList := by
      have hnot : ¬ (!key.toList.isEmpty && key.toList.all isBare) = true := by
        intro h
        rw [Bool.and_eq_true, Bool.not_eq_true', List.isEmpty_eq_false_iff, List.all_eq_true] at h
        exact hkey ⟨fun hempty => h.1 (by rw [hempty]; rfl), h.2⟩
      exact if_neg hnot
    refine ⟨.text key false, by simp, rfl, fun gap rest => ?_⟩
    rw [hquoted, scanFrom_writeKey key.toList (by decide), String.ofList_toList]

/-! ## Pairs, sections, documents -/

/-- The pairs that settings have: single keys with flat values. -/
def Pair.IsFlat (p : Pair) : Prop :=
  p.key.length = 1 ∧ p.value.IsFlat

/-- **A pair on its line is read as that pair.** -/
theorem readFrom_pair {p : Pair} (hp : p.IsFlat) (d : Draft) (rest : List Char) :
    readFrom d .line (.idle .nothing) (p.write ++ rest) = readFrom (d.add p.key p.value) .line (.idle .nothing) rest := by
  obtain ⟨key, v⟩ := p
  obtain ⟨hkey, hv⟩ := hp
  obtain ⟨part, rfl⟩ := List.length_eq_one_iff.mp hkey
  obtain ⟨t, ⟨hline, hbracket⟩, hpieces, hscan⟩ := exists_keyToken part
  have hfirst : step d ⟨.nothing, t⟩ .line = some (d, .key [.name part.toList]) := by
    have hstep : stepLine d t = t.pieces?.map fun pieces => (d, .key pieces) :=
      stepLine.eq_3 d t (fun h => hline h) (fun h => hbracket h)
    rw [step, hstep, hpieces]
    rfl
  have hequals : ∀ gap, step d ⟨gap, .equals⟩ (.key [.name part.toList]) = some (d, .value [part] []) := by
    simp [step, keyOf?, partsOf?, depthLimit]
  rw [Pair.write, writeKey_singleton]
  simp only [List.append_assoc, List.cons_append, List.nil_append]
  rw [readFrom_of_scanFrom (hscan _ _) hfirst, readFrom_space, readFrom_punctuation (t := .equals) rfl (hequals _),
    readFrom_space, readFrom_value hv]

theorem readFrom_pairs {pairs : List Pair} (h : ∀ p ∈ pairs, p.IsFlat) (d : Draft) (rest : List Char) :
    readFrom d .line (.idle .nothing) (pairs.flatMap Pair.write ++ rest) =
      readFrom { d with pairs := pairs.reverse ++ d.pairs } .line (.idle .nothing) rest := by
  induction pairs generalizing d with
  | nil => rfl
  | cons p pairs ih =>
    obtain ⟨hp, hpairs⟩ := List.forall_mem_cons.mp h
    rw [List.flatMap_cons, List.append_assoc, readFrom_pair hp, ih hpairs, List.reverse_cons, List.append_assoc]
    rfl

/-- The sections that settings are saved in: a heading of bare names that stands once, and flat pairs. -/
structure Section.IsFlat (s : Section) : Prop where
  path_ne_nil : s.path ≠ []
  length_path : s.path.length < depthLimit
  path : ∀ name ∈ s.path, IsBareName name
  repeated : s.repeated = false
  pairs : ∀ p ∈ s.pairs, p.IsFlat

theorem readFrom_heading {s : Section} (h : s.IsFlat) (d : Draft) (rest : List Char) :
    readFrom d .line (.idle .nothing) (writeHeading s ++ rest) =
      readFrom (d.open_ false s.path) .line (.idle .nothing) rest := by
  have hchars := forall_mem_writeKey h.path
  have hword : ∀ c ∈ writeKey s.path, isWordChar c = true := by
    intro c hc
    rcases hchars c hc with hbare | rfl
    · exact isWordChar_of_isBare hbare
    · rfl
  have hall : ((writeKey s.path).all fun c => isBare c || c = '.') = true :=
    List.all_eq_true.mpr fun c hc => by simpa using hchars c hc
  have hname : step d ⟨.nothing, .word (writeKey s.path)⟩ (.heading false []) =
      some (d, .heading false (piecesOf (writeKey s.path))) := by
    simp [step, stepHeading, Token.pieces?, piecesOf?, hall]
  have hkey : keyOf? (piecesOf (writeKey s.path)) = some s.path := by
    rw [keyOf?, partsOf?_piecesOf_writeKey h.path_ne_nil h.path, Option.filter_some_pos (by simpa using h.length_path)]
  have hclose : step d ⟨.nothing, .closeBracket⟩ (.heading false (piecesOf (writeKey s.path))) =
      some (d.open_ false s.path, .lineEnd) := by
    simp [step, stepHeading, hkey]
  rw [writeHeading, if_neg (by simp [h.repeated])]
  simp only [List.append_assoc, List.cons_append, List.nil_append]
  rw [readFrom_punctuation (t := .openBracket) rfl rfl,
    readFrom_of_scanFrom (Lexer.scanFrom_word (writeKey_ne_nil h.path_ne_nil h.path) hword rfl _ _) hname,
    readFrom_punctuation (t := .closeBracket) rfl hclose, readFrom_punctuation (t := .newLine) rfl rfl]

/-- **A section is read as that section.** -/
theorem readFrom_section {s : Section} (h : s.IsFlat) (d : Draft) (rest : List Char) :
    readFrom d .line (.idle .nothing) (s.write ++ rest) =
      readFrom ⟨d.sections, s.path, false, s.pairs.reverse⟩ .line (.idle .nothing) rest := by
  rw [Section.write, if_neg (by simpa using h.path_ne_nil), List.append_assoc, readFrom_heading h, readFrom_pairs h.pairs,
    Draft.open_, List.append_nil]

theorem Section.IsFlat.sections_eq {s : Section} (h : s.IsFlat) (done : List Section) :
    (⟨done, s.path, false, s.pairs.reverse⟩ : Draft).sections = s :: done := by
  rw [Draft.sections, List.reverse_reverse, ← h.repeated]

/-- The sections of a document, with empty lines between them. -/
theorem readFrom_sections {ss : List Section} (h : ∀ s ∈ ss, s.IsFlat) (d : Draft) :
    ∃ d', readFrom d .line (.idle .nothing) (['\n'].intercalate (ss.map Section.write)) = some (d', .line) ∧
      d'.sections = ss.reverse ++ d.sections := by
  induction ss generalizing d with
  | nil => exact ⟨d, rfl, rfl⟩
  | cons s ss ih =>
    obtain ⟨hs, hss⟩ := List.forall_mem_cons.mp h
    obtain ⟨d', hread, hsections⟩ := ih hss ⟨d.sections, s.path, false, s.pairs.reverse⟩
    refine ⟨d', ?_, ?_⟩
    · cases ss with
      | nil =>
        rw [List.map_singleton, List.intercalate_singleton, ← List.append_nil s.write, readFrom_section hs]
        exact hread
      | cons next ss =>
        rw [List.map_cons, List.map_cons, List.intercalate_cons_cons, List.append_assoc, readFrom_section hs,
          List.singleton_append, readFrom_punctuation (t := .newLine) rfl rfl]
        exact hread
    · rw [hsections, hs.sections_eq, List.reverse_cons, List.append_assoc]
      rfl

/-- **A written document is read as its sections**, after the section without a heading. -/
theorem sections?_write {ss : List Section} (h : ∀ s ∈ ss, s.IsFlat) :
    sections? (write ss).toList = some (⟨[], false, []⟩ :: ss) := by
  obtain ⟨d', hread, hsections⟩ := readFrom_sections h .start
  rw [readFrom] at hread
  rw [sections?, write, String.toList_ofList, Lexeme.scan, hread]
  show some d'.sections.reverse = _
  rw [hsections, List.reverse_append, List.reverse_reverse]
  rfl

end ApiOutline.Toml
