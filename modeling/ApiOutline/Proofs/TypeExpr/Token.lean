import ApiOutline.Proofs.Text.Blank
import ApiOutline.TypeExpr.Token

/-!
# Names among the tokens of a type text

The tokens of a text written piece by piece are the tokens of the pieces, as long as every name is followed
by a delimiter or by the end of the text.  A name that is a token is a text of its own kind, a tidy one; and a
tidy text is read as the one name that it is.

* `Plain`, `Tidy`: texts without delimiters, and those among them that are names.
* `tidy_of_mem_scan`: the names in a text are tidy.
* `scanFrom_append_of_ends`: reading up to a delimiter.
* `scanFrom_tidy_append`: reading a tidy name.
-/

namespace ApiOutline.TypeExpr.Token

open Text

/-- The texts without delimiters. -/
def Plain (cs : List Char) : Prop :=
  ∀ c ∈ cs, delimiter? c = none

theorem plain_iff_all {cs : List Char} :
    Plain cs ↔ cs.all (fun c => (delimiter? c).isNone) = true := by
  simp only [Plain, List.all_eq_true, Option.isNone_iff_eq_none]

instance : DecidablePred Plain := fun _ => decidable_of_iff _ plain_iff_all.symm

theorem delimiter?_ne_name (c : Char) (n : String) : delimiter? c ≠ some (name n) := by
  unfold delimiter?
  split
  · simp
  split
  · simp
  split <;> simp

theorem Plain.append {cs ds : List Char} (hcs : Plain cs) (hds : Plain ds) : Plain (cs ++ ds) :=
  fun c hc => (List.mem_append.mp hc).elim (hcs c) (hds c)

theorem Plain.reverse {cs : List Char} (h : Plain cs) : Plain cs.reverse :=
  fun c hc => h c (List.mem_reverse.mp hc)

theorem Plain.cons {c : Char} {cs : List Char} (h : Plain cs) (hc : delimiter? c = none) :
    Plain (c :: cs) :=
  fun c' hc' => (List.mem_cons.mp hc').elim (fun e => e ▸ hc) (h c')

theorem plain_nil : Plain [] := fun _ h => absurd h List.not_mem_nil

theorem Plain.trimChars {cs : List Char} (h : Plain cs) : Plain (trimChars cs) :=
  fun c hc => h c (mem_of_mem_trimChars hc)

/-- The texts that are names: not empty, without delimiters, and without white space at their ends. -/
structure Tidy (cs : List Char) : Prop where
  ne_nil : cs ≠ []
  plain : Plain cs
  trimmed : trimChars cs = cs

theorem tidy_iff {cs : List Char} : Tidy cs ↔ cs ≠ [] ∧ Plain cs ∧ trimChars cs = cs :=
  ⟨fun h => ⟨h.ne_nil, h.plain, h.trimmed⟩, fun ⟨hne, hplain, htrimmed⟩ => ⟨hne, hplain, htrimmed⟩⟩

instance : DecidablePred Tidy := fun _ => decidable_of_iff _ tidy_iff.symm

/-- What may stand before a tidy text so that it stays tidy: no delimiter, and no white space at the beginning. -/
theorem tidy_append_iff {cs ds : List Char} (hds : Tidy ds) :
    Tidy (cs ++ ds) ↔ Plain cs ∧ ∀ c, cs.head? = some c → isBlank c = false := by
  obtain ⟨hhead, hlast⟩ := trimChars_eq_self_iff.mp hds.trimmed
  constructor
  · intro h
    refine ⟨fun c hc => h.plain c (List.mem_append_left _ hc), fun c hc => ?_⟩
    refine (trimChars_eq_self_iff.mp h.trimmed).1 c ?_
    rw [List.head?_append, hc, Option.some_or]
  · rintro ⟨hplain, hfirst⟩
    refine ⟨List.append_ne_nil_of_right_ne_nil _ hds.ne_nil, hplain.append hds.plain, ?_⟩
    refine trimChars_eq_self_iff.mpr ⟨fun c hc => ?_, fun c hc => hlast c ?_⟩
    · cases cs with
      | nil => exact hhead c hc
      | cons c' cs => exact hfirst c hc
    · rwa [List.getLast?_append_of_ne_nil _ hds.ne_nil] at hc

/-! ## The names in a text -/

theorem ofName_of_trimChars_eq_nil {cs : List Char} (h : trimChars cs = []) : ofName cs = [] := by
  unfold ofName
  rw [h]

theorem ofName_of_trimChars_ne_nil {cs : List Char} (h : trimChars cs ≠ []) :
    ofName cs = [name (String.ofList (trimChars cs))] := by
  unfold ofName
  split
  · next hnil => exact absurd hnil h
  · rfl

theorem ofName_of_tidy {cs : List Char} (h : Tidy cs) : ofName cs = [name (String.ofList cs)] := by
  have hname := ofName_of_trimChars_ne_nil (h.trimmed.symm ▸ h.ne_nil)
  rwa [h.trimmed] at hname

theorem ofName_eq_of_trimChars {cs ds : List Char} (h : trimChars cs = trimChars ds) :
    ofName cs = ofName ds := by
  unfold ofName
  rw [h]

/-- What is between two delimiters is no token or a tidy name. -/
theorem ofName_cases {cs : List Char} (h : Plain cs) :
    (trimChars cs = [] ∧ ofName cs = []) ∨
      (Tidy (trimChars cs) ∧ ofName cs = [name (String.ofList (trimChars cs))]) := by
  by_cases hnil : trimChars cs = []
  · exact Or.inl ⟨hnil, ofName_of_trimChars_eq_nil hnil⟩
  · have htidy : Tidy (trimChars cs) := ⟨hnil, h.trimChars, trimChars_trimChars cs⟩
    exact Or.inr ⟨htidy, ofName_of_trimChars_ne_nil hnil⟩

theorem scanFrom_nil (pending : List Char) : scanFrom pending [] = ofName pending.reverse := rfl

theorem scanFrom_cons (pending : List Char) (c : Char) (cs : List Char) :
    scanFrom pending (c :: cs) =
      match delimiter? c with
      | some d => ofName pending.reverse ++ d :: scanFrom [] cs
      | none => scanFrom (c :: pending) cs := rfl

/-- The names in a text are tidy.  What has been read of a name holds no delimiter. -/
theorem tidy_of_mem_scanFrom {n : String} : ∀ {pending cs : List Char}, Plain pending →
    name n ∈ scanFrom pending cs → Tidy n.toList
  | pending, [], hpending, h => by
    rw [scanFrom_nil] at h
    rcases ofName_cases hpending.reverse with ⟨-, hname⟩ | ⟨htidy, hname⟩
    · rw [hname] at h
      exact absurd h List.not_mem_nil
    · rw [hname, List.mem_singleton, name.injEq] at h
      rwa [h, String.toList_ofList]
  | pending, c :: cs, hpending, h => by
    rw [scanFrom_cons] at h
    cases hc : delimiter? c with
    | none =>
      rw [hc] at h
      exact tidy_of_mem_scanFrom (hpending.cons hc) h
    | some d =>
      rw [hc] at h
      rcases List.mem_append.mp h with hname | hrest
      · rw [← scanFrom_nil] at hname
        exact tidy_of_mem_scanFrom hpending hname
      · rcases List.mem_cons.mp hrest with rfl | hrest
        · exact absurd hc (delimiter?_ne_name c n)
        · exact tidy_of_mem_scanFrom plain_nil hrest

theorem tidy_of_mem_scan {text n : String} (h : name n ∈ scan text) : Tidy n.toList :=
  tidy_of_mem_scanFrom plain_nil h

/-! ## Reading piece by piece -/

/-- The texts that end a name: those that begin with a delimiter, and the empty one. -/
def Ends (cs : List Char) : Prop :=
  ∀ c, cs.head? = some c → delimiter? c ≠ none

theorem ends_nil : Ends [] := fun _ h => absurd h (by simp)

theorem ends_cons {c : Char} {cs : List Char} (h : delimiter? c ≠ none) : Ends (c :: cs) := by
  intro c' hc'
  rw [List.head?_cons, Option.some_inj] at hc'
  exact hc' ▸ h

theorem scanFrom_cons_delimiter {c : Char} {d : Token} (h : delimiter? c = some d)
    (cs : List Char) : scanFrom [] (c :: cs) = d :: scanFrom [] cs := by
  rw [scanFrom_cons, h]
  rfl

/-- A stretch without delimiters is read into the name at its end. -/
theorem scanFrom_append_of_plain {cs : List Char} (h : Plain cs) (pending rest : List Char) :
    scanFrom pending (cs ++ rest) = scanFrom (cs.reverse ++ pending) rest := by
  induction cs generalizing pending with
  | nil => rfl
  | cons c cs ih =>
    rw [List.cons_append, scanFrom_cons, h c List.mem_cons_self]
    dsimp only
    rw [ih fun c' hc' => h c' (List.mem_cons_of_mem _ hc')]
    simp

/-- Where a name ends, it is a token, and reading goes on afresh. -/
theorem scanFrom_of_ends (pending : List Char) {rest : List Char} (h : Ends rest) :
    scanFrom pending rest = ofName pending.reverse ++ scanFrom [] rest := by
  cases rest with
  | nil =>
    rw [scanFrom_nil, scanFrom_nil]
    exact (List.append_nil _).symm
  | cons c rest =>
    obtain ⟨d, hd⟩ := Option.ne_none_iff_exists'.mp (h c rfl)
    rw [scanFrom_cons_delimiter hd, scanFrom_cons, hd]

theorem scanFrom_append_of_ends {cs rest : List Char} (hcs : Plain cs) (hrest : Ends rest) :
    scanFrom [] (cs ++ rest) = ofName cs ++ scanFrom [] rest := by
  rw [scanFrom_append_of_plain hcs, scanFrom_of_ends _ hrest, List.append_nil, List.reverse_reverse]

/-- **A tidy name is read as it is.** -/
theorem scanFrom_tidy_append {cs rest : List Char} (hcs : Tidy cs) (hrest : Ends rest) :
    scanFrom [] (cs ++ rest) = name (String.ofList cs) :: scanFrom [] rest := by
  rw [scanFrom_append_of_ends hcs.plain hrest, ofName_of_tidy hcs, List.singleton_append]

/-- White space before a name is of no account. -/
theorem scanFrom_append_blank {c : Char} (hc : isBlank c = true) :
    ∀ pending cs : List Char, scanFrom (pending ++ [c]) cs = scanFrom pending cs
  | pending, [] => by
    rw [scanFrom_nil, scanFrom_nil]
    refine ofName_eq_of_trimChars ?_
    rw [List.reverse_append]
    exact trimChars_cons_of_isBlank hc _
  | pending, c' :: cs => by
    have hname := scanFrom_append_blank hc pending []
    rw [scanFrom_nil, scanFrom_nil] at hname
    rw [scanFrom_cons, scanFrom_cons]
    cases delimiter? c' with
    | none => exact scanFrom_append_blank hc (c' :: pending) cs
    | some d => simp only [hname]

end ApiOutline.TypeExpr.Token
