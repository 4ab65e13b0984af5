import ApiOutline.CommandLine.Memory
import ApiOutline.Proofs.Except

/-!
# Files after one has been written

Writing a file changes what stands at the place of the file, and nothing else: every other file has the bytes that it
had, and the same places are folders.  So a path leads where it led before, and what is read under it is the new text if
it leads to the place of the file, and what it was if not.

* `Kind`, `kindAt?`: what stands at a place.
* `kindAt?_putAt`: the same after a file is put at a place.
* `walk_eq_ok_congr`: paths lead to the same places where the same places are folders.
* `exists_of_locateNew`: where a file is written is where its path leads.
* `Memory.read_write_same`, `Memory.read_write_other`: what is read after a file has been written.
-/

namespace ApiOutline.CommandLine

/-! ## What stands at a place -/

/-- A file with its bytes, or a folder. -/
inductive Kind where
  | file (contents : ByteArray)
  | folder

/-- What an entry is. -/
def Entry.kind : Entry → Kind
  | .file contents => .file contents
  | .folder _ => .folder

/-- What stands at a place. -/
def kindAt? (place : List String) (root : Entry) : Option Kind :=
  (entryAt? place root).map Entry.kind

variable {root root' e : Entry} {entries : Entries} {name : String} {place place' folder here parts : List String}
  {bytes : ByteArray}

theorem kindAt?_cons_folder : kindAt? (name :: place) (.folder entries) = (entries.lookup name).bind (kindAt? place) := by
  rw [kindAt?, entryAt?]
  cases entries.lookup name <;> rfl

theorem kindAt?_cons_file : kindAt? (name :: place) (.file bytes) = none := rfl

theorem exists_of_kindAt?_nil (h : kindAt? [] root = some .folder) : ∃ entries, root = .folder entries := by
  cases root with
  | file => cases h
  | folder entries => exact ⟨entries, rfl⟩

theorem exists_of_kindAt?_cons {k : Kind} (h : kindAt? (name :: place) root = some k) :
    ∃ entries e, root = .folder entries ∧ entries.lookup name = some e ∧ kindAt? place e = some k := by
  cases root with
  | file => cases h
  | folder entries =>
    rw [kindAt?_cons_folder] at h
    obtain ⟨e, he, hk⟩ := Option.bind_eq_some_iff.mp h
    exact ⟨entries, e, rfl, he, hk⟩

/-- What stands below a folder in which one entry has been replaced. -/
theorem kindAt?_upsert (name : String) (e : Entry) (entries : Entries) (part : String) (rest : List String) :
    kindAt? (part :: rest) (.folder (upsert name e entries)) =
      if part = name then kindAt? rest e else kindAt? (part :: rest) (.folder entries) := by
  rw [kindAt?_cons_folder, lookup_upsert, kindAt?_cons_folder]
  split <;> rfl

/-- Nothing stands below what is no folder. -/
theorem kindAt?_below (h : kindAt? place root ≠ some .folder) : kindAt? (place ++ name :: parts) root = none := by
  induction place generalizing root with
  | nil =>
    cases root with
    | file => rfl
    | folder => exact absurd rfl h
  | cons part place ih =>
    cases root with
    | file => rfl
    | folder entries =>
      rw [List.cons_append, kindAt?_cons_folder]
      rw [kindAt?_cons_folder] at h
      cases hlookup : entries.lookup part with
      | none => rfl
      | some e =>
        rw [hlookup] at h
        exact ih h

/-- **A file that is put into a folder changes what stands at its own place only.** -/
theorem kindAt?_putAt (hfolder : kindAt? folder root = some .folder) (hnew : kindAt? (folder ++ [name]) root ≠ some .folder)
    (bytes : ByteArray) (place : List String) :
    kindAt? place (putAt (.file bytes) (folder ++ [name]) root) =
      if place = folder ++ [name] then some (.file bytes) else kindAt? place root := by
  induction folder generalizing root place with
  | nil =>
    obtain ⟨entries, rfl⟩ := exists_of_kindAt?_nil hfolder
    rw [List.nil_append, putAt, putAt]
    cases place with
    | nil => rfl
    | cons part rest =>
      rw [kindAt?_upsert]
      by_cases hpart : part = name
      · subst hpart
        rw [if_pos rfl]
        cases rest with
        | nil => rw [if_pos rfl]; rfl
        | cons next rest =>
          rw [kindAt?_cons_file, if_neg (by simp)]
          exact (kindAt?_below hnew).symm
      · rw [if_neg hpart, if_neg (by simp [hpart])]
  | cons next folder ih =>
    obtain ⟨entries, e, rfl, hlookup, hinner⟩ := exists_of_kindAt?_cons hfolder
    rw [List.cons_append, kindAt?_cons_folder, hlookup] at hnew
    rw [List.cons_append, putAt, hlookup, Option.getD_some]
    cases place with
    | nil => rfl
    | cons part rest =>
      rw [kindAt?_upsert]
      by_cases hpart : part = next
      · subst hpart
        rw [if_pos rfl, ih hinner hnew, kindAt?_cons_folder, hlookup, Option.bind_some]
        simp
      · rw [if_neg hpart, if_neg (by simp [hpart])]

/-! ## Where paths lead -/

theorem checkFolder_eq_ok_iff : checkFolder root here = .ok () ↔ kindAt? here root = some .folder := by
  rw [checkFolder, kindAt?]
  cases entryAt? here root with
  | none => simp
  | some e => cases e <;> simp [Entry.kind]

theorem walk_cons_eq_ok_iff {part : String} :
    walk root here (part :: parts) = .ok place ↔
      kindAt? here root = some .folder ∧ ∃ next, enter here part = .ok next ∧ walk root next parts = .ok place := by
  rw [← checkFolder_eq_ok_iff, walk]
  cases checkFolder root here with
  | error => simp [bind, Except.bind]
  | ok =>
    cases enter here part with
    | error => simp [bind, Except.bind]
    | ok next => simp [bind, Except.bind]

/-- **A path leads to the same place where the same places are folders.** -/
theorem walk_eq_ok_congr (h : ∀ place, kindAt? place root = some .folder ↔ kindAt? place root' = some .folder) :
    walk root here parts = .ok place ↔ walk root' here parts = .ok place := by
  induction parts generalizing here with
  | nil => exact Iff.rfl
  | cons part parts ih => rw [walk_cons_eq_ok_iff, walk_cons_eq_ok_iff, h]; simp only [ih]

theorem walk_append_singleton {part : String} (hwalk : walk root here parts = .ok folder)
    (hfolder : kindAt? folder root = some .folder) (henter : enter folder part = .ok place) :
    walk root here (parts ++ [part]) = .ok place := by
  induction parts generalizing here with
  | nil =>
    obtain rfl : here = folder := Except.ok.inj hwalk
    exact walk_cons_eq_ok_iff.mpr ⟨hfolder, place, henter, rfl⟩
  | cons part' parts ih =>
    obtain ⟨hhere, next, hnext, hrest⟩ := walk_cons_eq_ok_iff.mp hwalk
    exact walk_cons_eq_ok_iff.mpr ⟨hhere, next, hnext, ih hrest⟩

variable {current path : String}

/-- **A file is written where its path leads**, which is into a folder. -/
theorem exists_of_locateNew (h : locateNew root current path = .ok place) :
    locate root current path = .ok place ∧
      ∃ folder name, place = folder ++ [name] ∧ kindAt? folder root = some .folder := by
  obtain ⟨parts, hparts, h⟩ := eq_ok_of_bind h
  dsimp only at h
  split at h
  · cases h
  · next last before hlast =>
    obtain ⟨folder, hwalk, h⟩ := eq_ok_of_bind h
    obtain ⟨_, hfolder, h⟩ := eq_ok_of_bind h
    rw [checkFolder_eq_ok_iff] at hfolder
    split at h
    · cases h
    · next hname =>
      obtain ⟨hslash, hdot, hdots⟩ : parts.reverse.head? ≠ some "" ∧ last ≠ "." ∧ last ≠ ".." := by
        simpa [not_or] using hname
      -- the path does not end with a slash, so nothing has been dropped
      have hreverse : parts.reverse = last :: before := by
        cases hcase : parts.reverse with
        | nil => rw [hcase] at hlast; cases hlast
        | cons part rest =>
          rw [hcase] at hlast hslash
          rwa [List.dropWhile_cons_of_neg (by simpa using hslash)] at hlast
      have hempty : last ≠ "" := by
        rw [hreverse] at hslash
        simpa using hslash
      have henter : place = folder ++ [last] := by
        rw [enter, if_neg (by simp [isIdle, hempty, hdot]), if_neg hdots] at h
        split at h
        · cases h
        · exact (Except.ok.inj h).symm
      have hparts' : parts = before.reverse ++ [last] := by
        rw [← List.reverse_reverse parts, hreverse, List.reverse_cons]
      refine ⟨?_, folder, last, henter, hfolder⟩
      rw [locate, hparts, hparts']
      exact walk_append_singleton hwalk hfolder h

/-! ## Reading and writing -/

namespace Memory

variable {s s' : Memory} {text : String}

theorem read_eq_ok_iff : s.read path = .ok bytes ↔
    ∃ place, locate s.root s.currentFolder path = .ok place ∧ kindAt? place s.root = some (.file bytes) := by
  rw [read]
  cases locate s.root s.currentFolder path with
  | error => simp [bind, Except.bind]
  | ok place =>
    simp only [bind, Except.bind, Except.ok.injEq, exists_eq_left', kindAt?]
    cases entryAt? place s.root with
    | none => simp
    | some e => cases e <;> simp [Entry.kind]

/-- Where a file can be written, and what the state is after that. -/
theorem write_eq_ok_iff : s.write path text = .ok s' ↔
    ∃ place, locateNew s.root s.currentFolder path = .ok place ∧ kindAt? place s.root ≠ some .folder ∧
      s' = { s with root := putAt (.file text.toUTF8) place s.root } := by
  rw [write]
  cases locateNew s.root s.currentFolder path with
  | error => simp [bind, Except.bind]
  | ok place =>
    simp only [bind, Except.bind, Except.ok.injEq, exists_eq_left', kindAt?]
    cases entryAt? place s.root with
    | none => simp [eq_comm]
    | some e => cases e <;> simp [Entry.kind, eq_comm]

/-- Whether a file can be written does not depend on its text. -/
theorem exists_write (h : s.write path text = .ok s') (text' : String) : ∃ s'', s.write path text' = .ok s'' := by
  obtain ⟨place, hplace, hnew, -⟩ := write_eq_ok_iff.mp h
  exact ⟨_, write_eq_ok_iff.mpr ⟨place, hplace, hnew, rfl⟩⟩

theorem currentFolder_write (h : s.write path text = .ok s') : s'.currentFolder = s.currentFolder := by
  obtain ⟨place, -, -, rfl⟩ := write_eq_ok_iff.mp h
  rfl

theorem environment_write (h : s.write path text = .ok s') : s'.environment = s.environment := by
  obtain ⟨place, -, -, rfl⟩ := write_eq_ok_iff.mp h
  rfl

/-- What stands at a place after a file has been written. -/
theorem kindAt?_write (h : s.write path text = .ok s') : ∃ written, locate s.root s.currentFolder path = .ok written ∧
    kindAt? written s.root ≠ some .folder ∧
    ∀ place, kindAt? place s'.root = if place = written then some (.file text.toUTF8) else kindAt? place s.root := by
  obtain ⟨written, hwritten, hnew, rfl⟩ := write_eq_ok_iff.mp h
  obtain ⟨hlocate, folder, name, rfl, hfolder⟩ := exists_of_locateNew hwritten
  exact ⟨folder ++ [name], hlocate, hnew, kindAt?_putAt hfolder hnew text.toUTF8⟩

/-- Paths lead where they led before a file was written. -/
theorem locate_write (h : s.write path text = .ok s') (path' : String) :
    locate s'.root s'.currentFolder path' = .ok place ↔ locate s.root s.currentFolder path' = .ok place := by
  obtain ⟨written, -, hnew, hkinds⟩ := kindAt?_write h
  have hfolders : ∀ place, kindAt? place s'.root = some .folder ↔ kindAt? place s.root = some .folder := by
    intro place
    rw [hkinds]
    split
    · next heq => simp [heq, hnew]
    · exact Iff.rfl
  rw [currentFolder_write h, locate, locate]
  cases partsFrom s.currentFolder path' with
  | error => exact Iff.rfl
  | ok parts => exact walk_eq_ok_congr hfolders

/-- **The text of a file that has been written is read** under every path that leads to the file. -/
theorem read_write_same {path' : String} (h : s.write path text = .ok s')
    (hsame : locate s.root s.currentFolder path' = locate s.root s.currentFolder path) :
    s'.read path' = .ok text.toUTF8 := by
  obtain ⟨written, hlocate, -, hkinds⟩ := kindAt?_write h
  exact read_eq_ok_iff.mpr ⟨written, (locate_write h path').mpr (hsame.trans hlocate), by rw [hkinds, if_pos rfl]⟩

/-- **What is read under a path that does not lead to the file is what was read before.** -/
theorem read_write_other {path' : String} (h : s.write path text = .ok s')
    (hother : locate s.root s.currentFolder path' ≠ locate s.root s.currentFolder path) :
    s'.read path' = .ok bytes ↔ s.read path' = .ok bytes := by
  obtain ⟨written, hlocate, -, hkinds⟩ := kindAt?_write h
  rw [read_eq_ok_iff, read_eq_ok_iff]
  refine exists_congr fun place => ?_
  rw [locate_write h]
  refine and_congr_right fun hplace => ?_
  rw [hkinds, if_neg]
  rintro rfl
  exact hother (hplace.trans hlocate.symm)

end Memory

end ApiOutline.CommandLine
