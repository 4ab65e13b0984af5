import ApiOutline.Json.Node
import ApiOutline.Json.Printer
import ApiOutline.Proofs.Decimal.Digits

/-!
# The tokens of printed values

A printed value is cut into the tokens that the value has by itself, whatever the white space between them.  Strings
are read back one character at a time: what is written for a character takes the reader of the string from the
characters before it to those and the character itself.  A number is read to its last digit, provided that
something follows it which closes it.

Both printed forms are one layout, with white space in the same places.

* `Json.tokens`: the tokens of a value.
* `Spacing`, `layOut`: the layout, with its white space as a parameter.
* `toList_compact`, `toList_prettyAt`: the two printed forms.
* `scanFrom_layOut`: the tokens of a layout.
-/

namespace ApiOutline.Json

open Text

/-! ## Tokens of values -/

mutual

/-- The tokens of a value. -/
def tokens : Json → List Token
  | null => [.null]
  | bool b => [.bool b]
  | nat n => [.number ⟨false, Nat.toDigits 10 n, [], none⟩]
  | str s => [.text s]
  | arr [] => [.openArray, .closeArray]
  | arr (v :: vs) => .openArray :: (tokens v ++ (moreTokens vs ++ [.closeArray]))
  | obj [] => [.openObject, .closeObject]
  | obj ((k, v) :: ms) =>
    .openObject :: .text k :: .colon :: (tokens v ++ (moreMemberTokens ms ++ [.closeObject]))

/-- The tokens of further items, each after a comma. -/
def moreTokens : List Json → List Token
  | [] => []
  | v :: vs => .comma :: (tokens v ++ moreTokens vs)

/-- The tokens of further members, each after a comma. -/
def moreMemberTokens : List (String × Json) → List Token
  | [] => []
  | (k, v) :: ms => .comma :: .text k :: .colon :: (tokens v ++ moreMemberTokens ms)

end

/-! ## Layout -/

/-- The white space of a layout. -/
structure Spacing where
  /-- What stands before an entry at a level, and before the closing bracket of a container at that level. -/
  line : Nat → List Char
  /-- What stands after a colon. -/
  colon : List Char
  line_gap : ∀ level, ∀ c ∈ line level, isGap c = true
  colon_gap : ∀ c ∈ colon, isGap c = true

/-- No white space. -/
def Spacing.tight : Spacing where
  line _ := []
  colon := []
  line_gap _ _ hc := absurd hc List.not_mem_nil
  colon_gap _ hc := absurd hc List.not_mem_nil

/-- Every entry on a line of its own. -/
def Spacing.wide : Spacing where
  line level := (newLine level).toList
  colon := [' ']
  line_gap level c hc := by
    simp only [newLine, String.toList_append, String.toList_ofList, List.mem_append,
      List.mem_replicate] at hc
    rcases hc with hc | ⟨-, rfl⟩
    · obtain rfl : c = '\n' := by simpa using hc
      rfl
    · rfl
  colon_gap := by simp [isGap]

section

variable (sp : Spacing)

mutual

/-- The value laid out, standing at a level. -/
def layOut (level : Nat) : Json → List Char
  | null => "null".toList
  | bool b => (if b then "true" else "false").toList
  | nat n => (toString n).toList
  | str s => (quote s).toList
  | arr [] => ['[', ']']
  | arr (v :: vs) =>
    '[' :: (sp.line (level + 1) ++ (layOut (level + 1) v
      ++ (layOutItems (level + 1) vs ++ (sp.line level ++ [']']))))
  | obj [] => ['\x7b', '\x7d']
  | obj ((k, v) :: ms) =>
    '\x7b' :: (sp.line (level + 1) ++ ((quote k).toList ++ ':' :: (sp.colon ++ (layOut (level + 1) v
      ++ (layOutMembers (level + 1) ms ++ (sp.line level ++ ['\x7d']))))))

/-- Further items laid out, each after a comma. -/
def layOutItems (level : Nat) : List Json → List Char
  | [] => []
  | v :: vs => ',' :: (sp.line level ++ (layOut level v ++ layOutItems level vs))

/-- Further members laid out, each after a comma. -/
def layOutMembers (level : Nat) : List (String × Json) → List Char
  | [] => []
  | (k, v) :: ms =>
    ',' :: (sp.line level ++ ((quote k).toList ++ ':' :: (sp.colon
      ++ (layOut level v ++ layOutMembers level ms))))

end

end

mutual

theorem toList_compact (level : Nat) : ∀ v : Json, v.compact.toList = layOut .tight level v
  | null => rfl
  | bool b => rfl
  | nat n => rfl
  | str s => rfl
  | arr [] => rfl
  | arr (v :: vs) => by
    simp [compact, layOut, Spacing.tight, toList_compact (level + 1) v, toList_compactItems (level + 1) vs]
  | obj [] => rfl
  | obj ((k, v) :: ms) => by
    simp [compact, layOut, Spacing.tight, toList_compact (level + 1) v,
      toList_compactMembers (level + 1) ms]

theorem toList_compactItems (level : Nat) :
    ∀ vs : List Json, (compactItems vs).toList = layOutItems .tight level vs
  | [] => rfl
  | v :: vs => by
    simp [compactItems, layOutItems, Spacing.tight, toList_compact level v, toList_compactItems level vs]

theorem toList_compactMembers (level : Nat) :
    ∀ ms : List (String × Json), (compactMembers ms).toList = layOutMembers .tight level ms
  | [] => rfl
  | (k, v) :: ms => by
    simp [compactMembers, layOutMembers, Spacing.tight, toList_compact level v,
      toList_compactMembers level ms]

end

mutual

theorem toList_prettyAt (level : Nat) : ∀ v : Json, (v.prettyAt level).toList = layOut .wide level v
  | null => rfl
  | bool b => rfl
  | nat n => rfl
  | str s => rfl
  | arr [] => by simp [prettyAt, layOut]
  | arr (v :: vs) => by
    simp [prettyAt, layOut, Spacing.wide, toList_prettyAt (level + 1) v, toList_prettyItems (level + 1) vs]
  | obj [] => by simp [prettyAt, layOut]
  | obj ((k, v) :: ms) => by
    simp [prettyAt, layOut, Spacing.wide, toList_prettyAt (level + 1) v,
      toList_prettyMembers (level + 1) ms]

theorem toList_prettyItems (level : Nat) :
    ∀ vs : List Json, (prettyItems level vs).toList = layOutItems .wide level vs
  | [] => rfl
  | v :: vs => by
    simp [prettyItems, layOutItems, Spacing.wide, toList_prettyAt level v, toList_prettyItems level vs]

theorem toList_prettyMembers (level : Nat) :
    ∀ ms : List (String × Json), (prettyMembers level ms).toList = layOutMembers .wide level ms
  | [] => rfl
  | (k, v) :: ms => by
    simp [prettyMembers, layOutMembers, Spacing.wide, toList_prettyAt level v,
      toList_prettyMembers level ms]

end

/-! ## Reading tokens -/

namespace Lexer

variable {rest : List Symbol}

theorem scanFrom_cons (state : Lexer) (x : Symbol) (rest : List Symbol) :
    state.scanFrom (x :: rest) = (state.step x).1 ++ (state.step x).2.scanFrom rest := rfl

/-- White space between tokens is passed over. -/
theorem scanFrom_gaps {cs : List Char} (h : ∀ c ∈ cs, isGap c = true) (rest : List Symbol) :
    idle.scanFrom (cs.map some ++ rest) = idle.scanFrom rest := by
  induction cs with
  | nil => rfl
  | cons c cs ih =>
    obtain ⟨hc, hcs⟩ := List.forall_mem_cons.mp h
    rw [List.map_cons, List.cons_append, scanFrom_cons, step, stepIdle, if_pos hc, ih hcs, List.nil_append]

/-! ## Strings -/

end Lexer

/-- A string of which the characters `cs` have been read, last one first, all of them well. -/
def TextScan.of (cs : List Char) : TextScan := ⟨cs, none, none, false⟩

@[simp] theorem TextScan.push_of (cs : List Char) (c : Char) :
    (TextScan.of cs).push c = TextScan.of (c :: cs) := rfl

theorem hexValue?_hexDigit {n : Nat} (h : n < 16) : hexValue? (hexDigit n) = some n := by
  have hall : ∀ n < 16, hexValue? (hexDigit n) = some n := by decide
  exact hall n h

theorem utf8Size_hexDigit {n : Nat} (h : n < 16) : (hexDigit n).utf8Size = 1 := by
  have hall : ∀ n < 16, (hexDigit n).utf8Size = 1 := by decide
  exact hall n h

namespace Lexer

variable {rest : List Symbol}

/-- A digit inside a hexadecimal escape. -/
theorem step_hexDigit (t : TextScan) {bytes n d : Nat} (hd : d < 16) :
    (hex t bytes n false).step (some (hexDigit d)) =
      if bytes < 3 then ([], hex t (bytes + 1) (16 * n + d) false)
      else ([], text (t.pushUnit (16 * n + d))) := by
  have hmore : bytes + 1 < 4 ↔ bytes < 3 := by omega
  simp [step, stepHex, Symbol.width, hexValue?_hexDigit hd, utf8Size_hexDigit hd, hmore]

theorem pushUnit_of {cs : List Char} {c : Char} (hc : c.toNat < 32) :
    (TextScan.of cs).pushUnit c.toNat = .of (c :: cs) := by
  have hlow : ¬ (0xdc00 ≤ c.toNat ∧ c.toNat ≤ 0xdfff) := by omega
  have hhigh : ¬ (0xd800 ≤ c.toNat ∧ c.toNat ≤ 0xdbff) := by omega
  simp only [TextScan.pushUnit, TextScan.of, if_neg hlow, if_neg hhigh, Char.ofNat_toNat]

/-- What is written for a control character. -/
theorem scanFrom_unit (cs : List Char) {c : Char} (hc : c.toNat < 32) (rest : List Symbol) :
    (text (.of cs)).scanFrom
        (['\\', 'u', '0', '0', hexDigit (c.toNat / 16), hexDigit (c.toNat % 16)].map some ++ rest) =
      (text (.of (c :: cs))).scanFrom rest := by
  have hstart : (text (.of cs)).scanFrom
      (['\\', 'u', '0', '0', hexDigit (c.toNat / 16), hexDigit (c.toNat % 16)].map some ++ rest) =
        (hex (.of cs) 2 0 false).scanFrom
          (some (hexDigit (c.toNat / 16)) :: some (hexDigit (c.toNat % 16)) :: rest) := rfl
  have hvalue : 16 * (16 * 0 + c.toNat / 16) + c.toNat % 16 = c.toNat := by omega
  rw [hstart, scanFrom_cons, step_hexDigit _ (by omega), if_pos (by omega), scanFrom_cons,
    step_hexDigit _ (by omega), if_neg (by omega), hvalue, pushUnit_of hc]
  rfl

/-- **What is written for a character is read as that character.** -/
theorem scanFrom_escape (cs : List Char) (c : Char) (rest : List Symbol) :
    (text (.of cs)).scanFrom ((Json.escape c).map some ++ rest) = (text (.of (c :: cs))).scanFrom rest := by
  unfold Json.escape
  split
  · next h => subst h; rfl
  split
  · next h => subst h; rfl
  split
  · next h => subst h; rfl
  split
  · next h => subst h; rfl
  split
  · next h => subst h; rfl
  split
  · next h => subst h; rfl
  split
  · next h => subst h; rfl
  split
  · next h => exact scanFrom_unit cs h rest
  · next hquote hslash _ _ _ _ _ hcontrol =>
    simp [scanFrom_cons, step, stepText, hquote, hslash, hcontrol]

/-- What is written for the characters of a string. -/
theorem scanFrom_escapes (cs before : List Char) (rest : List Symbol) :
    (text (.of before)).scanFrom ((cs.flatMap Json.escape).map some ++ rest) =
      (text (.of (cs.reverse ++ before))).scanFrom rest := by
  induction cs generalizing before with
  | nil => rfl
  | cons c cs ih =>
    rw [List.flatMap_cons, List.map_append, List.append_assoc, scanFrom_escape, ih, List.reverse_cons,
      List.append_assoc, List.singleton_append]

/-- **A string in quotation marks is read as it is.** -/
theorem scanFrom_quote (s : String) (rest : List Symbol) :
    idle.scanFrom ((quote s).toList.map some ++ rest) = .text s :: idle.scanFrom rest := by
  have hquote : (quote s).toList.map some ++ rest =
      some '"' :: ((s.toList.flatMap Json.escape).map some ++ (some '"' :: rest)) := by
    simp [quote]
  have hopen : ∀ xs, idle.scanFrom (some '"' :: xs) = (text (.of [])).scanFrom xs := fun _ => rfl
  have hclose : ∀ cs xs, (text (.of cs)).scanFrom (some '"' :: xs) =
      .text (String.ofList cs.reverse) :: idle.scanFrom xs := fun _ _ => rfl
  rw [hquote, hopen, scanFrom_escapes, hclose, List.append_nil, List.reverse_reverse,
    String.ofList_toList]

/-! ## Numbers -/

/-- What may stand behind a number: the end of the text, white space, a comma, or a closing bracket. -/
def Closes (rest : List Symbol) : Prop :=
  ∀ x, rest.head? = some x → ∃ c, x = some c ∧ c ∈ [' ', '\n', '\t', '\r', ',', ']', '\x7d']

theorem closes_nil : Closes [] := fun _ h => absurd h (by simp)

theorem closes_cons {c : Char} (h : c ∈ [' ', '\n', '\t', '\r', ',', ']', '\x7d'])
    (rest : List Symbol) : Closes (some c :: rest) := by
  intro x hx
  rw [List.head?_cons, Option.some_inj] at hx
  exact ⟨c, hx.symm, h⟩

theorem closes_gaps {cs : List Char} (hcs : ∀ c ∈ cs, isGap c = true) (h : Closes rest) :
    Closes (cs.map some ++ rest) := by
  cases cs with
  | nil => exact h
  | cons c cs =>
    have hc := hcs c List.mem_cons_self
    refine closes_cons ?_ _
    simp only [isGap, Bool.or_eq_true, decide_eq_true_eq] at hc
    rcases hc with ((rfl | rfl) | rfl) | rfl <;> simp

/-- Digits are read into the number before them. -/
theorem scanFrom_digits {cs : List Char} (hcs : ∀ c ∈ cs, c.isDigit = true) (before : List Char)
    (rest : List Symbol) :
    (number .whole ⟨false, before, [], none⟩).scanFrom (cs.map some ++ rest) =
      (number .whole ⟨false, cs.reverse ++ before, [], none⟩).scanFrom rest := by
  induction cs generalizing before with
  | nil => rfl
  | cons c cs ih =>
    obtain ⟨hc, hcs⟩ := List.forall_mem_cons.mp hcs
    have hstep : (number .whole ⟨false, before, [], none⟩).step (some c) =
        ([], number .whole ⟨false, c :: before, [], none⟩) := by
      simp [step, stepNumber, inNumber?, hc]
    rw [List.map_cons, List.cons_append, scanFrom_cons, hstep, ih hcs, List.nil_append,
      List.reverse_cons, List.append_assoc, List.singleton_append]

/-- A number ends where something closes it, if it may end at its place. -/
theorem scanFrom_number_closed {place : Place} (hplace : place = .zero ∨ place = .whole) (n : Numeral)
    (h : Closes rest) :
    (number place n).scanFrom rest = .number n.turned :: idle.scanFrom rest := by
  cases rest with
  | nil => rcases hplace with rfl | rfl <;> rfl
  | cons x rest =>
    obtain ⟨c, rfl, hc⟩ := h x rfl
    simp only [List.mem_cons, List.not_mem_nil, or_false] at hc
    rcases hplace with rfl | rfl <;> rcases hc with rfl | rfl | rfl | rfl | rfl | rfl | rfl <;> rfl

/-- A digit other than zero begins a number. -/
theorem step_digit {c : Char} (hdigit : c.isDigit = true) (hzero : c ≠ '0') :
    idle.step (some c) = ([], number .whole ⟨false, [c], [], none⟩) := by
  have hne : ∀ d : Char, d.isDigit = false → c ≠ d := by
    rintro d hd rfl
    rw [hd] at hdigit
    exact absurd hdigit (by simp)
  have hgap : isGap c = false := by
    simp [isGap, hne ' ' rfl, hne '\n' rfl, hne '\t' rfl, hne '\r' rfl]
  simp [step, stepIdle, hgap, hne '[' rfl, hne ']' rfl, hne '\x7b' rfl, hne '\x7d' rfl, hne ',' rfl,
    hne ':' rfl, hne '"' rfl, hne '-' rfl, hzero, hdigit]

/-- **A natural number is read to its last digit.** -/
theorem scanFrom_nat (n : Nat) (h : Closes rest) :
    idle.scanFrom ((toString n).toList.map some ++ rest) =
      .number ⟨false, Nat.toDigits 10 n, [], none⟩ :: idle.scanFrom rest := by
  rw [Decimal.toList_toString]
  by_cases hzero : n = 0
  · subst hzero
    exact scanFrom_number_closed (.inl rfl) ⟨false, ['0'], [], none⟩ h
  · obtain ⟨c, cs, hcons, hc⟩ := Decimal.exists_toDigits (Nat.pos_of_ne_zero hzero)
    have hall : ∀ d ∈ c :: cs, d.isDigit = true := fun d hd =>
      Decimal.isDigit_of_mem_toDigits (hcons ▸ hd)
    obtain ⟨hdigit, hcs⟩ := List.forall_mem_cons.mp hall
    rw [hcons, List.map_cons, List.cons_append, scanFrom_cons, step_digit hdigit hc, scanFrom_digits hcs,
      scanFrom_number_closed (.inr rfl) _ h]
    simp [Numeral.turned]

/-! ## Whole values -/

theorem scanFrom_bracket {c : Char} {t : Token} (hc : idle.step (some c) = ([t], idle))
    (rest : List Symbol) : idle.scanFrom (some c :: rest) = t :: idle.scanFrom rest := by
  rw [scanFrom_cons, hc]
  rfl

variable (sp : Spacing)

theorem closes_line (level : Nat) {c : Char} (hc : c ∈ [' ', '\n', '\t', '\r', ',', ']', '\x7d'])
    (rest : List Symbol) : Closes ((sp.line level).map some ++ some c :: rest) :=
  closes_gaps (sp.line_gap level) (closes_cons hc rest)

theorem closes_items (level : Nat) (vs : List Json) (h : Closes rest) :
    Closes ((layOutItems sp level vs).map some ++ rest) := by
  cases vs with
  | nil => exact h
  | cons v vs => exact closes_cons (by simp) _

theorem closes_members (level : Nat) (ms : List (String × Json)) (h : Closes rest) :
    Closes ((layOutMembers sp level ms).map some ++ rest) := by
  cases ms with
  | nil => exact h
  | cons m ms => exact closes_cons (by simp) _

mutual

/-- **A value that is laid out is cut into its own tokens.** -/
theorem scanFrom_layOut (level : Nat) (rest : List Symbol) (h : Closes rest) : ∀ v : Json,
    idle.scanFrom ((layOut sp level v).map some ++ rest) = v.tokens ++ idle.scanFrom rest
  | null => rfl
  | bool true => rfl
  | bool false => rfl
  | nat n => scanFrom_nat n h
  | str s => scanFrom_quote s rest
  | arr [] => rfl
  | arr (v :: vs) => by
    have hclose := closes_line sp level (c := ']') (by simp) rest
    simp only [layOut, tokens, List.map_append, List.map_cons, List.map_nil, List.cons_append,
      List.append_assoc, List.nil_append]
    rw [scanFrom_bracket (t := .openArray) rfl, scanFrom_gaps (sp.line_gap _),
      scanFrom_layOut (level + 1) _ (closes_items sp _ vs hclose) v,
      scanFrom_layOutItems (level + 1) _ hclose vs, scanFrom_gaps (sp.line_gap _),
      scanFrom_bracket (t := .closeArray) rfl]
  | obj [] => rfl
  | obj ((k, v) :: ms) => by
    have hclose := closes_line sp level (c := '\x7d') (by simp) rest
    simp only [layOut, tokens, List.map_append, List.map_cons, List.map_nil, List.cons_append,
      List.append_assoc, List.nil_append]
    rw [scanFrom_bracket (t := .openObject) rfl, scanFrom_gaps (sp.line_gap _), scanFrom_quote,
      scanFrom_bracket (t := .colon) rfl, scanFrom_gaps sp.colon_gap,
      scanFrom_layOut (level + 1) _ (closes_members sp _ ms hclose) v,
      scanFrom_layOutMembers (level + 1) _ hclose ms, scanFrom_gaps (sp.line_gap _),
      scanFrom_bracket (t := .closeObject) rfl]

theorem scanFrom_layOutItems (level : Nat) (rest : List Symbol) (h : Closes rest) :
    ∀ vs : List Json, idle.scanFrom ((layOutItems sp level vs).map some ++ rest) =
      moreTokens vs ++ idle.scanFrom rest
  | [] => rfl
  | v :: vs => by
    simp only [layOutItems, moreTokens, List.map_append, List.map_cons, List.cons_append,
      List.append_assoc]
    rw [scanFrom_bracket (t := .comma) rfl, scanFrom_gaps (sp.line_gap _),
      scanFrom_layOut level _ (closes_items sp _ vs h) v, scanFrom_layOutItems level _ h vs]

theorem scanFrom_layOutMembers (level : Nat) (rest : List Symbol) (h : Closes rest) :
    ∀ ms : List (String × Json), idle.scanFrom ((layOutMembers sp level ms).map some ++ rest) =
      moreMemberTokens ms ++ idle.scanFrom rest
  | [] => rfl
  | (k, v) :: ms => by
    simp only [layOutMembers, moreMemberTokens, List.map_append, List.map_cons, List.cons_append,
      List.append_assoc]
    rw [scanFrom_bracket (t := .comma) rfl, scanFrom_gaps (sp.line_gap _), scanFrom_quote,
      scanFrom_bracket (t := .colon) rfl, scanFrom_gaps sp.colon_gap,
      scanFrom_layOut level _ (closes_members sp _ ms h) v, scanFrom_layOutMembers level _ h ms]

end

end Lexer

theorem scan_layOut (sp : Spacing) (v : Json) :
    Token.scan ((layOut sp 0 v).map some) = v.tokens := by
  have h := Lexer.scanFrom_layOut sp 0 [] Lexer.closes_nil v
  rwa [List.append_nil, show Lexer.idle.scanFrom [] = [] from rfl, List.append_nil] at h

end ApiOutline.Json
