import ApiOutline.Toml.Printer
import ApiOutline.Toml.Token

/-!
# The tokens of written texts and words

A word and a text in quotation marks are cut into one token each, whatever stands behind them, provided that it does
not go on with them.

A text that is written in a long form may hold quotation marks of its own kind.  While it is read, the marks since the
last other character are counted and not yet added, for they may turn out to be the first ones of those that end it.  So
the induction goes over texts that are entered after `run` marks, with the count that the writer keeps as well.  Between
two characters the count is zero, which is why a long text is the same `inside` as after no marks.

* `Lexer.scanFrom_word`, `Lexer.scanFrom_punctuation`: words and single characters.
* `Lexer.escape_cases`: a character is written as itself or as an escape that is read as it.
* `Lexer.scanFrom_escapeFrom`, `Lexer.scanFrom_escapeFrom_long`, `Lexer.scanFrom_literal`, `Lexer.scanFrom_literal_long`:
  the inside of the four forms of texts.
* `Form.scanFrom_write`, `scanFrom_writeText`: texts in quotation marks.
-/

namespace ApiOutline.Toml

variable {gap : Gap} {c mark : Char} {cs w rest : List Char}

namespace Lexer

theorem scanFrom_cons (state : Lexer) (c : Char) (rest : List Char) :
    state.scanFrom (c :: rest) = (state.step c).1 ++ (state.step c).2.scanFrom rest := rfl

/-- A token that is finished by the character behind it. -/
theorem scanFrom_of_andIdle {state : Lexer} {l : Lexeme} (h : state.step c = andIdle l c) (rest : List Char) :
    state.scanFrom (c :: rest) = l :: (idle .nothing).scanFrom (c :: rest) := by
  rw [scanFrom_cons, h]
  rfl

/-! ## Words and single characters -/

theorem scanFrom_punctuation {t : Token} (h : punctuation? c = some t) (gap : Gap) (rest : List Char) :
    (idle gap).scanFrom (c :: rest) = ⟨gap, t⟩ :: (idle .nothing).scanFrom rest := by
  rw [scanFrom_cons, step, stepIdle, h]
  rfl

theorem stepIdle_of_isWordChar (h : isWordChar c = true) (gap : Gap) : stepIdle gap c = ([], word gap [c]) := by
  have hne : ∀ d, isWordChar d = false → c ≠ d := by
    rintro d hd rfl
    exact absurd h (by simp [hd])
  have hpunctuation : punctuation? c = none := by
    simp [punctuation?, hne '=' rfl, hne ',' rfl, hne '[' rfl, hne ']' rfl, hne '\x7b' rfl, hne '\x7d' rfl,
      hne '\n' rfl]
  have hgap : isGap c = false := by simp [isGap, hne ' ' rfl, hne '\t' rfl]
  simp [stepIdle, hpunctuation, hgap, h]

theorem scanFrom_wordChars (h : ∀ c ∈ cs, isWordChar c = true) (gap : Gap) (before rest : List Char) :
    (word gap before).scanFrom (cs ++ rest) = (word gap (cs.reverse ++ before)).scanFrom rest := by
  induction cs generalizing before with
  | nil => rfl
  | cons c cs ih =>
    obtain ⟨hc, hcs⟩ := List.forall_mem_cons.mp h
    rw [List.cons_append, scanFrom_cons, step, if_pos hc, ih hcs, List.reverse_cons, List.append_assoc]
    rfl

/-- **A word is read to its last character.** -/
theorem scanFrom_word (hne : w ≠ []) (hw : ∀ c ∈ w, isWordChar c = true) (hc : isWordChar c = false) (gap : Gap)
    (rest : List Char) :
    (idle gap).scanFrom (w ++ c :: rest) = ⟨gap, .word w⟩ :: (idle .nothing).scanFrom (c :: rest) := by
  obtain ⟨d, ds, rfl⟩ := List.exists_cons_of_ne_nil hne
  obtain ⟨hd, hds⟩ := List.forall_mem_cons.mp hw
  have hend : (word gap (ds.reverse ++ [d])).step c = andIdle ⟨gap, .word (d :: ds)⟩ c := by
    rw [step, if_neg (by simp [hc])]
    simp
  rw [List.cons_append, scanFrom_cons, step, stepIdle_of_isWordChar hd, List.nil_append, scanFrom_wordChars hds,
    scanFrom_of_andIdle hend]

end Lexer

/-! ## Characters of texts -/

theorem hexValue?_hexDigit {n : Nat} (h : n < 16) : hexValue? (Form.hexDigit n) = some n := by
  have hall : ∀ n < 16, hexValue? (Form.hexDigit n) = some n := by decide
  exact hall n h

/-- A character that does not stand for itself is a control character. -/
theorem toNat_lt_of_isPlain_eq_false (h : isPlain c = false) : c.toNat < 128 := by
  simp only [isPlain, Bool.or_eq_false_iff, Bool.and_eq_false_iff, decide_eq_false_iff_not, bne_eq_false_iff_eq] at h
  omega

theorem isPlain_of_isControl_eq_false (h : isControl c = false) : isPlain c = true ∨ c = '\n' := by
  rw [isControl, Bool.and_eq_false_iff] at h
  exact h.imp (by simp) (by simp)

namespace Lexer

/-- A hexadecimal escape of a control character. -/
theorem scanFrom_hex (t : TextScan) (hc : c.toNat < 128) (rest : List Char) :
    (text t .escape).scanFrom
        ('u' :: '0' :: '0' :: Form.hexDigit (c.toNat / 16) :: Form.hexDigit (c.toNat % 16) :: rest) =
      (text (t.push c) .inside).scanFrom rest := by
  have hstart : ∀ rest, (text t .escape).scanFrom ('u' :: '0' :: '0' :: rest) = (text t (.hex 2 0)).scanFrom rest :=
    fun _ => rfl
  have hvalue : 16 * (16 * 0 + c.toNat / 16) + c.toNat % 16 = c.toNat := by omega
  have hvalid : c.toNat.isValidChar := Or.inl (by omega)
  have hfirst : (text t (.hex 2 0)).step (Form.hexDigit (c.toNat / 16)) =
      ([], text t (.hex 1 (16 * 0 + c.toNat / 16))) := by
    simp [step, stepText, stepHex, hexValue?_hexDigit (n := c.toNat / 16) (by omega)]
  have hsecond : (text t (.hex 1 (16 * 0 + c.toNat / 16))).step (Form.hexDigit (c.toNat % 16)) =
      ([], text (t.push c) .inside) := by
    simp only [step, stepText, stepHex, hexValue?_hexDigit (n := c.toNat % 16) (by omega), hvalue, Char.ofNat_toNat,
      if_pos hvalid]
    rfl
  rw [hstart, scanFrom_cons, hfirst, scanFrom_cons, hsecond]
  rfl

/-- What is written for a character between double quotation marks is the character itself, where it may stand, or an
escape that is read as the character. -/
theorem escape_cases (long : Bool) (limit run : Nat) (c : Char) :
    (Form.escape long limit run c = [c] ∧ c ≠ '\\' ∧ (c = '"' → run + 1 ≤ limit) ∧
        (isPlain c = true ∨ long = true ∧ c = '\n')) ∨
      ∃ es, Form.escape long limit run c = '\\' :: es ∧
        ∀ t rest, (text t .escape).scanFrom (es ++ rest) = (text (t.push c) .inside).scanFrom rest := by
  unfold Form.escape
  split
  · next h =>
    subst h
    split
    · exact .inr ⟨_, rfl, fun _ _ => rfl⟩
    · next hlimit => exact .inl ⟨rfl, by decide, fun _ => Nat.le_of_not_lt hlimit, .inl (by decide)⟩
  split
  · next h => subst h; exact .inr ⟨_, rfl, fun _ _ => rfl⟩
  split
  · next h => subst h; exact .inr ⟨_, rfl, fun _ _ => rfl⟩
  split
  · next h => subst h; exact .inr ⟨_, rfl, fun _ _ => rfl⟩
  split
  · next h =>
    subst h
    cases long with
    | true => exact .inl ⟨rfl, by decide, by simp, .inr ⟨rfl, rfl⟩⟩
    | false => exact .inr ⟨_, rfl, fun _ _ => rfl⟩
  split
  · next h => subst h; exact .inr ⟨_, rfl, fun _ _ => rfl⟩
  split
  · next h => subst h; exact .inr ⟨_, rfl, fun _ _ => rfl⟩
  split
  · next hquote hslash _ _ _ _ _ hplain => exact .inl ⟨rfl, hslash, (absurd · hquote), .inl hplain⟩
  · next hplain =>
    exact .inr ⟨_, rfl, fun t rest => scanFrom_hex t (toNat_lt_of_isPlain_eq_false (by simpa using hplain)) rest⟩

/-! ## Texts on one line -/

/-- A text between quotation marks on one line, of which the characters `before` have been read, last one first. -/
def line (gap : Gap) (mark : Char) (before : List Char) : Lexer :=
  text ⟨gap, mark, false, before⟩ .inside

theorem scanFrom_line_end (gap : Gap) (mark : Char) (before rest : List Char) :
    (line gap mark before).scanFrom (mark :: rest) =
      ⟨gap, .text (String.ofList before.reverse) false⟩ :: (idle .nothing).scanFrom rest := by
  rw [scanFrom_cons, line, step, stepText, stepInside, if_pos rfl]
  rfl

theorem scanFrom_line_plain (hmark : c ≠ mark) (hslash : c = '\\' → mark ≠ '"') (hplain : isPlain c = true)
    (gap : Gap) (before rest : List Char) :
    (line gap mark before).scanFrom (c :: rest) = (line gap mark (c :: before)).scanFrom rest := by
  have hescape : ¬ (c = '\\' ∧ decide (mark = '"') = true) := fun h => hslash h.1 (of_decide_eq_true h.2)
  rw [scanFrom_cons, line, step, stepText, stepInside, if_neg hmark, TextScan.hasEscapes, if_neg hescape,
    if_pos hplain]
  rfl

/-- **What is written for a character between quotation marks is read as that character.** -/
theorem scanFrom_escape (gap : Gap) (before : List Char) (c : Char) (rest : List Char) :
    (line gap '"' before).scanFrom (Form.escape false 0 0 c ++ rest) = (line gap '"' (c :: before)).scanFrom rest := by
  rcases escape_cases false 0 0 c with ⟨hself, hslash, hquote, hplain⟩ | ⟨es, hescape, hread⟩
  · rw [hself]
    exact scanFrom_line_plain (fun h => absurd (hquote h) (by omega)) (absurd · hslash) (by simpa using hplain) gap
      before rest
  · rw [hescape]
    exact hread ⟨gap, '"', false, before⟩ rest

theorem scanFrom_escapeFrom (cs : List Char) (gap : Gap) (before rest : List Char) :
    (line gap '"' before).scanFrom (Form.escapeFrom false 0 0 cs ++ rest) =
      (line gap '"' (cs.reverse ++ before)).scanFrom rest := by
  induction cs generalizing before with
  | nil => rfl
  | cons c cs ih =>
    -- no mark is left as it is, so none of them begins a run
    have hrun : (if c = '"' ∧ 0 + 1 ≤ 0 then 0 + 1 else 0) = 0 := if_neg fun h => absurd h.2 (by omega)
    rw [Form.escapeFrom, hrun, List.append_assoc, scanFrom_escape, ih, List.reverse_cons, List.append_assoc]
    rfl

theorem scanFrom_literal (h : ∀ c ∈ cs, c ≠ '\'' ∧ isPlain c = true) (gap : Gap) (before rest : List Char) :
    (line gap '\'' before).scanFrom (cs ++ rest) = (line gap '\'' (cs.reverse ++ before)).scanFrom rest := by
  induction cs generalizing before with
  | nil => rfl
  | cons c cs ih =>
    obtain ⟨⟨hmark, hplain⟩, hcs⟩ := List.forall_mem_cons.mp h
    rw [List.cons_append, scanFrom_line_plain hmark (fun _ => by decide) hplain, ih hcs, List.reverse_cons,
      List.append_assoc]
    rfl

theorem scanFrom_mark (h : mark = '"' ∨ mark = '\'') (gap : Gap) (rest : List Char) :
    (idle gap).scanFrom (mark :: rest) = (opening gap mark false).scanFrom rest := by
  rcases h with rfl | rfl <;> rfl

/-- The beginning of a text on one line: the state after its first mark is that of a text, unless the text is empty. -/
theorem scanFrom_opening (hc : c ≠ mark) (gap : Gap) (rest : List Char) :
    (opening gap mark false).scanFrom (c :: rest) = (line gap mark []).scanFrom (c :: rest) := by
  rw [scanFrom_cons, scanFrom_cons, step, stepOpening, if_neg hc]
  rfl

theorem scanFrom_opening_end (hc : c ≠ mark) (gap : Gap) (rest : List Char) :
    (opening gap mark false).scanFrom (mark :: c :: rest) =
      ⟨gap, .text "" false⟩ :: (idle .nothing).scanFrom (c :: rest) := by
  have hend : (opening gap mark true).step c = andIdle ⟨gap, .text "" false⟩ c := by
    rw [step, stepOpening, if_neg hc]
  rw [scanFrom_cons, step, stepOpening, if_pos rfl]
  exact scanFrom_of_andIdle hend rest

/-! ## Texts over several lines -/

/-- A long text between threefold quotation marks, of which the characters `before` have been read, last one first, and
then `run` marks. -/
def lines (gap : Gap) (mark : Char) (before : List Char) (run : Nat) : Lexer :=
  text ⟨gap, mark, true, before⟩ (.marks run)

/-- Between two characters of a long text no marks have been read. -/
theorem scanFrom_inside (gap : Gap) (mark : Char) (before rest : List Char) :
    (text ⟨gap, mark, true, before⟩ .inside).scanFrom rest = (lines gap mark before 0).scanFrom rest := by
  cases rest with
  | nil => rfl
  | cons c rest =>
    rw [scanFrom_cons, scanFrom_cons, lines, step, step, stepText, stepText, stepMarks]
    by_cases hc : c = mark
    · simp [stepInside, hc]
    · simp [hc, TextScan.pushMarks]

theorem scanFrom_lines_mark {run : Nat} (hrun : run ≤ 3) (gap : Gap) (mark : Char) (before rest : List Char) :
    (lines gap mark before run).scanFrom (mark :: rest) = (lines gap mark before (run + 1)).scanFrom rest := by
  rw [scanFrom_cons, lines, step, stepText, stepMarks, if_pos rfl, if_neg (by omega)]
  rfl

/-- The end of a long text: up to two marks before the last three belong to it. -/
theorem scanFrom_lines_end {run : Nat} (hrun : run ≤ 2) (hc : c ≠ mark) (gap : Gap) (before rest : List Char) :
    (lines gap mark before run).scanFrom (mark :: mark :: mark :: c :: rest) =
      ⟨gap, .text (String.ofList (List.replicate run mark ++ before).reverse) true⟩ ::
        (idle .nothing).scanFrom (c :: rest) := by
  rw [scanFrom_lines_mark (by omega), scanFrom_lines_mark (by omega)]
  by_cases htwo : run = 2
  · subst htwo
    rw [scanFrom_cons, lines, step, stepText, stepMarks, if_pos rfl, if_pos rfl]
    rfl
  · rw [scanFrom_lines_mark (by omega)]
    refine scanFrom_of_andIdle ?_ rest
    rw [lines, step, stepText, stepMarks, if_neg hc, if_pos (by omega)]
    rfl

/-- The beginning of a long text is the place between two characters, unless a line break comes first. -/
theorem scanFrom_fresh (hline : c ≠ '\n') (hreturn : c ≠ '\r') (gap : Gap) (mark : Char) (rest : List Char) :
    (text ⟨gap, mark, true, []⟩ .fresh).scanFrom (c :: rest) = (lines gap mark [] 0).scanFrom (c :: rest) := by
  rw [← scanFrom_inside, scanFrom_cons, scanFrom_cons, step, step, stepText, stepText, if_neg hline, if_neg hreturn]

theorem scanFrom_fresh_newLine (gap : Gap) (mark : Char) (rest : List Char) :
    (text ⟨gap, mark, true, []⟩ .fresh).scanFrom ('\n' :: rest) = (lines gap mark [] 0).scanFrom rest := by
  rw [← scanFrom_inside]
  rfl

/-- After a run of marks another character makes them part of the text. -/
theorem scanFrom_lines_of_ne {run : Nat} (hrun : run ≤ 2) (hc : c ≠ mark) (gap : Gap) (before rest : List Char) :
    (lines gap mark before run).scanFrom (c :: rest) =
      (lines gap mark (List.replicate run mark ++ before) 0).scanFrom (c :: rest) := by
  rw [scanFrom_cons, scanFrom_cons, lines, lines, step, step, stepText, stepText, stepMarks, stepMarks, if_neg hc,
    if_neg hc, if_neg (by omega), if_neg (by omega)]
  rfl

theorem scanFrom_lines_plain (hmark : c ≠ mark) (hslash : c = '\\' → mark ≠ '"')
    (hplain : isPlain c = true ∨ c = '\n') (gap : Gap) (before rest : List Char) :
    (lines gap mark before 0).scanFrom (c :: rest) = (lines gap mark (c :: before) 0).scanFrom rest := by
  have hescape : ¬ (c = '\\' ∧ decide (mark = '"') = true) := fun h => hslash h.1 (of_decide_eq_true h.2)
  rw [← scanFrom_inside, ← scanFrom_inside, scanFrom_cons, step, stepText, stepInside, if_neg hmark,
    TextScan.hasEscapes, if_neg hescape]
  rcases hplain with hplain | rfl
  · rw [if_pos hplain]
    rfl
  · rfl

/-- **What is written for a character between threefold quotation marks is read as that character**, and the marks
before it with it. -/
theorem scanFrom_escape_long {run : Nat} (hrun : run ≤ 2) (hc : ¬ (c = '"' ∧ run + 1 ≤ 2)) (gap : Gap)
    (before rest : List Char) :
    (lines gap '"' before run).scanFrom (Form.escape true 2 run c ++ rest) =
      (lines gap '"' (c :: (List.replicate run '"' ++ before)) 0).scanFrom rest := by
  rcases escape_cases true 2 run c with ⟨hself, hslash, hquote, hplain⟩ | ⟨es, hescape, hread⟩
  · have hne : c ≠ '"' := fun h => hc ⟨h, hquote h⟩
    rw [hself, List.singleton_append, scanFrom_lines_of_ne hrun hne]
    exact scanFrom_lines_plain hne (absurd · hslash) (hplain.imp_right And.right) gap _ rest
  · rw [hescape, List.cons_append, scanFrom_lines_of_ne hrun (by decide), ← scanFrom_inside, ← scanFrom_inside]
    exact hread ⟨gap, '"', true, List.replicate run '"' ++ before⟩ rest

/-- The inside of a long text with escapes, and its end. -/
theorem scanFrom_escapeFrom_long (cs : List Char) {run : Nat} (hrun : run ≤ 2) (hc : c ≠ '"') (gap : Gap)
    (before rest : List Char) :
    (lines gap '"' before run).scanFrom (Form.escapeFrom true 2 run cs ++ '"' :: '"' :: '"' :: c :: rest) =
      ⟨gap, .text (String.ofList (cs.reverse ++ (List.replicate run '"' ++ before)).reverse) true⟩ ::
        (idle .nothing).scanFrom (c :: rest) := by
  induction cs generalizing run before with
  | nil => exact scanFrom_lines_end hrun hc gap before rest
  | cons d cs ih =>
    rw [Form.escapeFrom, List.append_assoc]
    by_cases hd : d = '"' ∧ run + 1 ≤ 2
    · obtain ⟨rfl, hlimit⟩ := hd
      have hmark : Form.escape true 2 run '"' = ['"'] := by
        rw [Form.escape, if_pos rfl, if_neg (by omega)]
      rw [if_pos ⟨rfl, hlimit⟩, hmark, List.singleton_append, scanFrom_lines_mark (by omega), ih hlimit]
      simp [List.replicate_succ]
    · rw [if_neg hd, scanFrom_escape_long hrun hd, ih (Nat.zero_le 2)]
      simp

theorem le_longestRunFrom (mark : Char) (run longest : Nat) (cs : List Char) :
    longest ≤ longestRunFrom mark run longest cs := by
  induction cs generalizing run longest with
  | nil => exact Nat.le_refl _
  | cons c cs ih => exact Nat.le_trans (Nat.le_max_left _ _) (ih _ _)

/-- The inside of a long text as it is, and its end. -/
theorem scanFrom_literal_long {run longest : Nat} (hall : ∀ d ∈ cs, isPlain d = true ∨ d = '\n')
    (hlongest : longestRunFrom '\'' run longest cs ≤ 2) (hrun : run ≤ 2) (hc : c ≠ '\'') (gap : Gap)
    (before rest : List Char) :
    (lines gap '\'' before run).scanFrom (cs ++ '\'' :: '\'' :: '\'' :: c :: rest) =
      ⟨gap, .text (String.ofList (cs.reverse ++ (List.replicate run '\'' ++ before)).reverse) true⟩ ::
        (idle .nothing).scanFrom (c :: rest) := by
  induction cs generalizing run longest before with
  | nil => exact scanFrom_lines_end hrun hc gap before rest
  | cons d cs ih =>
    obtain ⟨hd, hcs⟩ := List.forall_mem_cons.mp hall
    rw [longestRunFrom] at hlongest
    rw [List.cons_append]
    by_cases hmark : d = '\''
    · subst hmark
      rw [if_pos rfl] at hlongest
      have hlimit : run + 1 ≤ 2 :=
        Nat.le_trans (Nat.le_max_right _ _) (Nat.le_trans (le_longestRunFrom _ _ _ _) hlongest)
      rw [scanFrom_lines_mark (by omega), ih hcs hlongest hlimit]
      simp [List.replicate_succ]
    · rw [if_neg hmark] at hlongest
      rw [scanFrom_lines_of_ne hrun hmark, scanFrom_lines_plain hmark (fun _ => by decide) hd,
        ih hcs hlongest (Nat.zero_le 2)]
      simp

end Lexer

/-! ## Texts in their forms -/

namespace Form

open Lexer

variable {text : List Char}

/-- Whether texts in the form may go over several lines. -/
def isLong : Form → Bool
  | basic | literal => false
  | longBasic | longLiteral => true

/-- The texts that can be written in a form.  With escapes every text can. -/
def Holds (text : List Char) : Form → Prop
  | basic | longBasic => True
  | literal => suits text literal = true
  | longLiteral => suits text longLiteral = true

theorem holds_of_suits {form : Form} (h : form.suits text = true) : form.Holds text := by
  cases form with
  | basic | longBasic => trivial
  | literal | longLiteral => exact h

theorem holds_of (text : List Char) : (Form.of text).Holds text := by
  unfold Form.of
  split
  · next form hform => exact holds_of_suits (List.find?_some (p := suits text) hform)
  · split <;> trivial

theorem holds_ofKey (key : List Char) : (Form.ofKey key).Holds key := by
  unfold Form.ofKey
  split
  · trivial
  split
  · next hsuits => exact hsuits
  · trivial

theorem isLong_ofKey (key : List Char) : (Form.ofKey key).isLong = false := by
  unfold Form.ofKey
  split
  · rfl
  split <;> rfl

theorem plain_of_literal (h : Holds text literal) : ∀ c ∈ text, c ≠ '\'' ∧ isPlain c = true := by
  simp only [Holds, suits, Bool.and_eq_true, Bool.not_eq_true', List.any_eq_false, List.contains_eq_mem,
    decide_eq_false_iff_not] at h
  obtain ⟨⟨hcontrol, hmark⟩, hline⟩ := h
  intro c hc
  refine ⟨fun heq => hmark (heq ▸ hc), ?_⟩
  exact (isPlain_of_isControl_eq_false (by simpa using hcontrol c hc)).resolve_right fun heq => hline (heq ▸ hc)

theorem plain_of_longLiteral (h : Holds text longLiteral) :
    (∀ c ∈ text, isPlain c = true ∨ c = '\n') ∧ longestRun '\'' text ≤ 2 := by
  simp only [Holds, suits, Bool.and_eq_true, Bool.not_eq_true', List.any_eq_false, decide_eq_true_eq] at h
  exact ⟨fun c hc => isPlain_of_isControl_eq_false (by simpa using h.1 c hc), h.2⟩

/-- What is written for a text begins with a line break or a mark only where that character stands for itself. -/
theorem head?_escapeFrom (long : Bool) (limit run : Nat) :
    ∀ d ∈ (escapeFrom long limit run text).head?, d ≠ '\r' ∧ (d = '\n' → '\n' ∈ text) ∧ (d = '"' → run + 1 ≤ limit) := by
  intro d hd
  cases text with
  | nil => simp [escapeFrom] at hd
  | cons c cs =>
    rw [escapeFrom] at hd
    rcases escape_cases long limit run c with ⟨hself, -, hquote, hplain⟩ | ⟨es, hescape, -⟩
    · obtain rfl : c = d := by simpa [hself] using hd
      refine ⟨?_, fun heq => heq ▸ List.mem_cons_self, hquote⟩
      rintro rfl
      rcases hplain with hplain | ⟨-, hline⟩
      · exact absurd hplain (by decide)
      · exact absurd hline (by decide)
    · obtain rfl : '\\' = d := by simpa [hescape] using hd
      exact ⟨by decide, by simp, by simp⟩

theorem eq_nil_of_escapeFrom {long : Bool} {limit run : Nat} (h : escapeFrom long limit run text = []) : text = [] := by
  cases text with
  | nil => rfl
  | cons c cs =>
    rw [escapeFrom] at h
    rcases escape_cases long limit run c with ⟨hself, -⟩ | ⟨es, hescape, -⟩
    · simp [hself] at h
    · simp [hescape] at h

/-- A text on one line, from its first mark to its last one: `written` is what stands between them. -/
theorem scanFrom_oneLine (hmark : mark = '"' ∨ mark = '\'') (hc : c ≠ mark) {written : List Char}
    (hfirst : ∀ d ∈ written.head?, d ≠ mark) (hempty : written = [] → text = []) (gap : Gap)
    (hread : ∀ rest, (line gap mark []).scanFrom (written ++ rest) = (line gap mark text.reverse).scanFrom rest)
    (rest : List Char) :
    (idle gap).scanFrom (mark :: (written ++ mark :: c :: rest)) =
      ⟨gap, .text (String.ofList text) false⟩ :: (idle .nothing).scanFrom (c :: rest) := by
  rw [scanFrom_mark hmark]
  cases written with
  | nil =>
    obtain rfl := hempty rfl
    exact scanFrom_opening_end hc gap rest
  | cons d ds =>
    rw [List.cons_append, scanFrom_opening (hfirst d rfl), ← List.cons_append, hread, scanFrom_line_end,
      List.reverse_reverse]

/-- The beginning of a long text, from its first mark on: the first line break does not count, and stands there if there
are others. -/
theorem scanFrom_lead (hmark : mark = '"' ∨ mark = '\'') {written : List Char}
    (hfirst : ∀ d ∈ written.head?, d ≠ '\r' ∧ (d = '\n' → '\n' ∈ text)) (gap : Gap) (rest : List Char) :
    (idle gap).scanFrom (mark :: mark :: mark ::
        ((if text.contains '\n' then ['\n'] else []) ++ (written ++ mark :: rest))) =
      (lines gap mark [] 0).scanFrom (written ++ mark :: rest) := by
  have hopen : ∀ tail, (opening gap mark false).scanFrom (mark :: mark :: tail) =
      (Lexer.text ⟨gap, mark, true, []⟩ .fresh).scanFrom tail := fun tail => by
    rw [scanFrom_cons, step, stepOpening, if_pos rfl, List.nil_append, scanFrom_cons, step, stepOpening, if_pos rfl]
    rfl
  rw [scanFrom_mark hmark, hopen]
  by_cases hline : '\n' ∈ text
  · rw [if_pos (by simpa using hline), List.singleton_append, scanFrom_fresh_newLine]
  · rw [if_neg (by simpa using hline), List.nil_append]
    cases written with
    | nil => rcases hmark with rfl | rfl <;> exact scanFrom_fresh (by decide) (by decide) gap _ rest
    | cons d ds =>
      obtain ⟨hreturn, hbreak⟩ := hfirst d rfl
      exact scanFrom_fresh (fun heq => hline (hbreak heq)) hreturn gap mark _

/-- **A text is read as it is from every form that it can be written in.** -/
theorem scanFrom_write (form : Form) (h : form.Holds text) (hc : c ≠ '"' ∧ c ≠ '\'') (gap : Gap) (rest : List Char) :
    (idle gap).scanFrom (form.write text ++ c :: rest) =
      ⟨gap, .text (String.ofList text) form.isLong⟩ :: (idle .nothing).scanFrom (c :: rest) := by
  cases form with
  | basic =>
    have hfirst : ∀ d ∈ (escapeFrom false 0 0 text).head?, d ≠ '"' := fun d hd heq =>
      absurd ((head?_escapeFrom false 0 0 d hd).2.2 heq) (by omega)
    have hread : ∀ tail, (line gap '"' []).scanFrom (escapeFrom false 0 0 text ++ tail) =
        (line gap '"' text.reverse).scanFrom tail := fun tail => by
      rw [scanFrom_escapeFrom, List.append_nil]
    simpa [write, isLong] using
      scanFrom_oneLine (.inl rfl) hc.1 hfirst eq_nil_of_escapeFrom gap hread rest
  | literal =>
    have hplain := plain_of_literal h
    have hfirst : ∀ d ∈ text.head?, d ≠ '\'' := fun d hd => (hplain d (List.mem_of_mem_head? hd)).1
    have hread : ∀ tail, (line gap '\'' []).scanFrom (text ++ tail) = (line gap '\'' text.reverse).scanFrom tail :=
      fun tail => by rw [scanFrom_literal hplain, List.append_nil]
    simpa [write, isLong] using scanFrom_oneLine (.inr rfl) hc.2 hfirst id gap hread rest
  | longBasic =>
    have hfirst : ∀ d ∈ (escapeFrom true 2 0 text).head?, d ≠ '\r' ∧ (d = '\n' → '\n' ∈ text) := fun d hd =>
      ⟨(head?_escapeFrom true 2 0 d hd).1, (head?_escapeFrom true 2 0 d hd).2.1⟩
    have hread := scanFrom_escapeFrom_long text (Nat.zero_le 2) hc.1 gap [] rest
    rw [← scanFrom_lead (.inl rfl) hfirst] at hread
    simpa [write, isLong] using hread
  | longLiteral =>
    obtain ⟨hplain, hrun⟩ := plain_of_longLiteral h
    have hfirst : ∀ d ∈ text.head?, d ≠ '\r' ∧ (d = '\n' → '\n' ∈ text) := by
      intro d hd
      refine ⟨?_, fun heq => heq ▸ List.mem_of_mem_head? hd⟩
      rintro rfl
      exact absurd (hplain _ (List.mem_of_mem_head? hd)) (by decide)
    have hread := scanFrom_literal_long hplain hrun (Nat.zero_le 2) hc.2 gap [] rest
    rw [← scanFrom_lead (.inr rfl) hfirst] at hread
    simpa [write, isLong] using hread

end Form

/-- **A written text is read as one token.** -/
theorem scanFrom_writeText (s : String) (hc : c ≠ '"' ∧ c ≠ '\'') (gap : Gap) (rest : List Char) :
    (Lexer.idle gap).scanFrom (writeText s ++ c :: rest) =
      ⟨gap, .text s (Form.of s.toList).isLong⟩ :: (Lexer.idle .nothing).scanFrom (c :: rest) := by
  rw [writeText, Form.scanFrom_write _ (Form.holds_of _) hc, String.ofList_toList]

/-- A part of a key in quotation marks is read as one token on one line. -/
theorem scanFrom_writeKey (key : List Char) (hc : c ≠ '"' ∧ c ≠ '\'') (gap : Gap) (rest : List Char) :
    (Lexer.idle gap).scanFrom ((Form.ofKey key).write key ++ c :: rest) =
      ⟨gap, .text (String.ofList key) false⟩ :: (Lexer.idle .nothing).scanFrom (c :: rest) := by
  rw [Form.scanFrom_write _ (Form.holds_ofKey _) hc, Form.isLong_ofKey]

end ApiOutline.Toml
