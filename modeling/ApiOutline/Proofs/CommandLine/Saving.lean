import ApiOutline.CommandLine.Run
import ApiOutline.Proofs.CommandLine.Memory
import ApiOutline.Proofs.Settings.Reload
import ApiOutline.Proofs.Text.Utf8
import ApiOutline.Text.Utf8

/-!
# Saving settings and loading them again

On a host in memory, settings are saved to a file and loaded from it again.  All files with settings that are found then
are this one, possibly several times, so what is loaded depends on the saved document only.

* `join_of_isAbsolute`, `locate_join`, `extension?_join`: paths that start from the current folder.
* `Memory.source`, `Memory.run_loadSettings`: what is found in a state, and the settings that are loaded from it.
* `Memory.Suits`: the states in which there are no other settings.
* `run_loadSettings_unchanged`: settings that come back as they were.
* `saved_settings_reload`: the main statement.
-/

namespace ApiOutline.CommandLine

open Settings (Source)

/-! ## Paths -/

variable {base path : String}

theorem join_of_isAbsolute (h : isAbsolute path = true) (base : String) : join base path = path := by
  rw [join, if_pos (by simp [h])]

theorem isAbsolute_append (h : isAbsolute base = true) (path : String) : isAbsolute (base ++ path) = true := by
  rw [isAbsolute] at h ⊢
  rw [String.toList_append]
  cases hbase : base.toList with
  | nil => rw [hbase] at h; cases h
  | cons c cs => rw [hbase] at h; simpa using h

theorem isAbsolute_join (h : isAbsolute base = true) (path : String) : isAbsolute (join base path) = true := by
  rw [join]
  split
  · next hpath =>
    rcases Bool.or_eq_true _ _ ▸ hpath with habsolute | hempty
    · exact habsolute
    · rw [String.isEmpty_iff.mp hempty] at h
      cases h
  · split
    · exact isAbsolute_append h path
    · exact isAbsolute_append (isAbsolute_append h "/") path

theorem pathFault?_of_locate {root : Entry} {current : String} {place : List String}
    (h : locate root current path = .ok place) : pathFault? path = none := by
  obtain ⟨parts, hparts, -⟩ := eq_ok_of_bind h
  rw [partsFrom] at hparts
  split at hparts
  · cases hparts
  · assumption

/-- A path leads where it leads from the current folder. -/
theorem locate_join {root : Entry} {current : String} (habsolute : isAbsolute current = true)
    (hfault : pathFault? (join current path) = none) (hpath : pathFault? path = none) :
    locate root current (join current path) = locate root current path := by
  rw [locate, locate, partsFrom, partsFrom, hfault, hpath, join_of_isAbsolute (isAbsolute_join habsolute path)]

theorem fileName_append_slash (front path : List Char) : fileName (front ++ '/' :: path) = fileName path := by
  have hslash : ∀ rest, (path.reverse ++ '/' :: rest).takeWhile (· != '/') = path.reverse.takeWhile (· != '/') := by
    intro rest
    rw [List.takeWhile_append]
    split
    · next hall => rw [List.takeWhile_cons_of_neg (by simp), List.append_nil,
        (List.takeWhile_sublist _).eq_of_length hall]
    · rfl
  rw [fileName, fileName, List.reverse_append, List.reverse_cons, List.append_assoc, List.singleton_append, hslash]

theorem extension?_join (base path : String) : extension? (join base path) = extension? path := by
  have hname : fileName (join base path).toList = fileName path.toList := by
    rw [join]
    split
    · rfl
    · split
      · next hslash =>
        obtain ⟨front, hfront⟩ := List.getLast?_eq_some_iff.mp (eq_of_beq hslash)
        rw [String.toList_append, hfront, List.append_assoc, List.singleton_append, fileName_append_slash]
      · rw [String.toList_append, String.toList_append]
        show fileName (base.toList ++ ['/'] ++ path.toList) = _
        rw [List.append_assoc, List.singleton_append, fileName_append_slash]
  rw [extension?, extension?, hname]

/-! ## Settings of a host in memory -/

namespace Memory

variable (s : Memory) (name : String)

/-- The source that a file is read as. -/
def textSource (path : String) : Source :=
  match s.read path with
  | .ok bytes => .text name (Text.textOfBytes bytes)
  | .error _ => .missing name

/-- The source under a name. -/
def source : Source :=
  let path := join s.currentFolder name
  if (s.read path).toOption.isSome then
    if extension? path = some "toml" then s.textSource name path else .unknownForm path
  else
    match withExtension? path "toml" with
    | some path => if (s.read path).toOption.isSome then s.textSource name path else .missing name
    | none => .missing name

/-- The source under a name, if it can be read. -/
def sourceIfRead : List Source :=
  match s.source name with
  | .text name contents => [.text name contents]
  | _ => []

/-- The source with the settings of the user. -/
def userSource : List Source :=
  match userFile? s.environment with
  | some path => if (s.read path).toOption.isSome then s.sourceIfRead path else []
  | none => []

theorem run_environment : host.environment.run s = (s.environment, s) := rfl

theorem run_currentFolder : host.currentFolder.run s = (s.currentFolder, s) := rfl

theorem run_isFile (path : String) : (host.isFile path).run s = ((s.read path).toOption.isSome, s) := rfl

theorem run_read (path : String) : (host.read path).run s = (s.read path, s) := rfl

theorem run_write {s' : Memory} {path text : String} (h : s.write path text = .ok s') :
    (host.write path text).run s = (.ok (), s') := by
  show change (·.write path text) s = _
  simp only [change, h]

variable {s name} {α β : Type}

/-- A computation is followed by what is done with its result, in the state that it leaves. -/
theorem run_bind {x : StateM Memory α} {a : α} {s' : Memory} (h : x.run s = (a, s')) (f : α → StateM Memory β) :
    (x >>= f).run s = (f a).run s' := by
  rw [StateT.run_bind, h]
  rfl

theorem run_mapM {f : α → StateM Memory β} {g : α → β} (h : ∀ a, (f a).run s = (g a, s)) (as : List α) :
    (as.mapM f).run s = (as.map g, s) := by
  induction as with
  | nil => rfl
  | cons a as ih => rw [List.mapM_cons, run_bind (h a), run_bind ih]; rfl

variable (s name)

theorem run_textSource (path : String) : (CommandLine.textSource host name path).run s = (s.textSource name path, s) := by
  rw [CommandLine.textSource, textSource, run_bind (run_read s path)]
  cases s.read path <;> rfl

theorem run_findSource : (findSource host name).run s = (s.source name, s) := by
  rw [findSource, source, run_bind (run_currentFolder s), run_bind (run_isFile s _)]
  split
  · split
    · exact run_textSource s name _
    · rfl
  · cases withExtension? (join s.currentFolder name) "toml" with
    | none => rfl
    | some path =>
      dsimp only
      rw [run_bind (run_isFile s path)]
      split
      · exact run_textSource s name path
      · rfl

theorem run_findUsual : (findUsual host name).run s = (s.sourceIfRead name, s) := by
  unfold findUsual sourceIfRead
  rw [run_bind (run_findSource s name)]
  generalize s.source name = found
  cases found <;> rfl

theorem run_findUser : (findUser host s.environment).run s = (s.userSource, s) := by
  rw [findUser, userSource]
  cases userFile? s.environment with
  | none => rfl
  | some path =>
    dsimp only
    rw [run_bind (run_isFile s path)]
    split
    · exact run_findUsual s path
    · rfl

/-- **The settings on a host in memory** are those of the files that can be read, and of its environment. -/
theorem run_loadSettings (file : Option String) :
    (loadSettings host file).run s =
      (Settings.load ((usualFiles.map s.sourceIfRead).flatten ++ s.userSource ++ file.toList.map s.source) s.environment,
        s) := by
  rw [loadSettings, run_bind (run_environment s), run_bind (run_mapM (run_findUsual s) usualFiles),
    run_bind (run_findUser s), run_bind (run_mapM (run_findSource s) file.toList)]
  rfl

end Memory

/-! ## Files with settings -/

/-- The paths under which a file with settings is looked for. -/
def settingsPaths (current name : String) : List String :=
  join current name :: (withExtension? (join current name) "toml").toList

namespace Memory

variable {s s' : Memory} {name name' contents text : String}

theorem exists_of_textSource (h : s.textSource name path = .text name' contents) :
    ∃ bytes, s.read path = .ok bytes ∧ contents = Text.textOfBytes bytes := by
  rw [textSource] at h
  cases hread : s.read path with
  | error => rw [hread] at h; cases h
  | ok bytes =>
    rw [hread] at h
    cases h
    exact ⟨bytes, rfl, rfl⟩

/-- A source has been read under one of the paths for its name. -/
theorem exists_of_source (h : s.source name = .text name' contents) :
    ∃ full ∈ settingsPaths s.currentFolder name, ∃ bytes, s.read full = .ok bytes ∧ contents = Text.textOfBytes bytes := by
  rw [source] at h
  split at h
  · split at h
    · exact ⟨_, List.mem_cons_self, exists_of_textSource h⟩
    · cases h
  · cases hextended : withExtension? (join s.currentFolder name) "toml" with
    | none => rw [hextended] at h; cases h
    | some full =>
      rw [hextended] at h
      dsimp only at h
      split at h
      · exact ⟨full, by simp [settingsPaths, hextended], exists_of_textSource h⟩
      · cases h

theorem exists_of_mem_sourceIfRead {src : Source} (h : src ∈ s.sourceIfRead name) :
    ∃ name' contents, s.source name = .text name' contents ∧ src = .text name' contents := by
  unfold sourceIfRead at h
  generalize s.source name = found at h
  cases found with
  | text name' contents => exact ⟨name', contents, rfl, List.mem_singleton.mp h⟩
  | missing => exact absurd h List.not_mem_nil
  | unknownForm => exact absurd h List.not_mem_nil

/-- A file under the path `path` can be written and read, and there are no settings but in this file. -/
structure Suits (s : Memory) (path : String) : Prop where
  currentFolder : isAbsolute s.currentFolder = true
  extension : extension? path = some "toml"
  /-- The path is not too long where it starts from the root. -/
  full : pathFault? (join s.currentFolder path) = none
  writable : ∃ s', s.write path "" = .ok s'
  alone : ∀ name ∈ usualFiles ++ (userFile? s.environment).toList, ∀ full ∈ settingsPaths s.currentFolder name,
    (s.read full).toOption.isSome = true →
      locate s.root s.currentFolder full = locate s.root s.currentFolder path
  environment : ∀ v ∈ s.environment, Settings.variableKey? v.1 = none

variable (h : s.Suits path) (hwrite : s.write path text = .ok s')

include h hwrite

/-- Every file with settings that is there after one has been written has its text. -/
theorem Suits.eq_of_read {bytes : ByteArray} {full : String}
    (hname : name ∈ usualFiles ++ (userFile? s.environment).toList) (hfull : full ∈ settingsPaths s.currentFolder name)
    (hread : s'.read full = .ok bytes) : bytes = text.toUTF8 := by
  have hsame : locate s.root s.currentFolder full = locate s.root s.currentFolder path := by
    by_contra hother
    have hbefore := (read_write_other hwrite hother).mp hread
    exact hother (h.alone name hname full hfull (by rw [hbefore]; rfl))
  rw [read_write_same hwrite hsame] at hread
  exact (Except.ok.inj hread).symm

theorem Suits.exists_text_of_mem_sourceIfRead (hname : name ∈ usualFiles ++ (userFile? s.environment).toList) :
    ∀ src ∈ s'.sourceIfRead name, ∃ name, src = .text name text := by
  intro src hsrc
  obtain ⟨name', contents, hsource, rfl⟩ := exists_of_mem_sourceIfRead hsrc
  obtain ⟨full, hfull, bytes, hread, rfl⟩ := exists_of_source hsource
  rw [currentFolder_write hwrite] at hfull
  exact ⟨name', by rw [h.eq_of_read hwrite hname hfull hread, Text.textOfBytes_toUTF8]⟩

theorem Suits.source_eq : s'.source path = .text path text := by
  obtain ⟨written, hlocate, -, -⟩ := kindAt?_write hwrite
  have hread : s'.read (join s'.currentFolder path) = .ok text.toUTF8 := by
    rw [currentFolder_write hwrite]
    exact read_write_same hwrite (locate_join h.currentFolder h.full (pathFault?_of_locate hlocate))
  have hsome : (s'.read (join s'.currentFolder path)).toOption.isSome = true := by
    rw [hread]
    rfl
  rw [source, if_pos hsome, if_pos (by rw [extension?_join, h.extension]), textSource, hread]
  exact congrArg _ (Text.textOfBytes_toUTF8 text)

/-- All sources after a file has been written are copies of this file. -/
theorem Suits.exists_text_of_mem_sources :
    ∀ src ∈ (usualFiles.map s'.sourceIfRead).flatten ++ s'.userSource ++ (some path).toList.map s'.source,
      ∃ name, src = .text name text := by
  simp only [List.forall_mem_append]
  refine ⟨⟨fun src hsrc => ?_, fun src hsrc => ?_⟩, fun src hsrc => ?_⟩
  · obtain ⟨name, hname, hsrc⟩ := List.exists_of_mem_flatMap (List.flatMap_def ▸ hsrc)
    exact h.exists_text_of_mem_sourceIfRead hwrite (List.mem_append_left _ hname) src hsrc
  · rw [userSource, environment_write hwrite] at hsrc
    cases huser : userFile? s.environment with
    | none => rw [huser] at hsrc; cases hsrc
    | some user =>
      rw [huser] at hsrc
      dsimp only at hsrc
      split at hsrc
      · exact h.exists_text_of_mem_sourceIfRead hwrite (List.mem_append_right _ (by simp [huser])) src hsrc
      · cases hsrc
  · exact ⟨path, by rw [List.mem_singleton.mp hsrc, h.source_eq hwrite]⟩

end Memory

/-! ## Saving and loading -/

section

variable {m : Type → Type} [Monad m] [LawfulMonad m] {c : Settings}

/-- **Settings with a number that is too large are not saved**, and nothing is done on the host. -/
theorem run_saveSettings_of_tooLarge (host : Host m) {e : Settings.TooLarge} (h : c.save = .error e) (path : String) :
    (saveSettings host c path).run = pure (.error (.save e)) := by
  have htext : (liftM (orFail .save c.save) : ExceptT RunError m String).run = pure (.error (.save e)) := by
    rw [h]
    rfl
  rw [saveSettings, ExceptT.run_bind, htext, pure_bind]

end

variable {s : Memory} {c : Settings}

/-- Settings that can be saved are written to the file. -/
theorem run_saveSettings {s' : Memory} {text : String} (hsave : c.save = .ok text) (hwrite : s.write path text = .ok s') :
    (saveSettings Memory.host c path).run.run s = (.ok (), s') := by
  have htext : (liftM (orFail .save c.save) : ExceptT RunError (StateM Memory) String).run = pure (.ok text) := by
    rw [hsave]
    rfl
  rw [saveSettings, ExceptT.run_bind, htext, pure_bind]
  dsimp only
  rw [ExceptT.run_bind]
  have hwritten : (liftM (Memory.host.write path text) : ExceptT RunError (StateM Memory) _).run.run s =
      (.ok (.ok ()), s') := by
    show ((Memory.host.write path text).run s).map Except.ok id = _
    rw [Memory.run_write s hwrite]
    rfl
  rw [Memory.run_bind hwritten]
  rfl

/-- Saved settings are loaded again, or the first name of their wrappers stands in the way. -/
theorem run_loadSettings_of_saved (h : s.Suits path) (hnumbers : ∀ n ∈ c.numbers, n ≤ Toml.integerMax) :
    ∃ s', (saveSettings Memory.host c path).run.run s = (.ok (), s') ∧
      (¬ c.ReadAsMoment → (loadSettings Memory.host (some path)).run s' =
        (.ok (c.reread (.ofList (Settings.putAll c.outline.wrappers.entries []))), s')) ∧
      (c.ReadAsMoment → ∃ e, (loadSettings Memory.host (some path)).run s' = (.error e, s')) := by
  obtain ⟨_, hwritable⟩ := h.writable
  obtain ⟨s', hwrite⟩ := Memory.exists_write hwritable (Toml.write c.sections)
  have hsources := h.exists_text_of_mem_sources hwrite
  have henvironment : ∀ v ∈ s'.environment, Settings.variableKey? v.1 = none :=
    Memory.environment_write hwrite ▸ h.environment
  refine ⟨s', run_saveSettings (Settings.save_eq_ok hnumbers) hwrite, fun hmoment => ?_, fun hmoment => ?_⟩
  · rw [Memory.run_loadSettings, Settings.load_saved hnumbers hmoment (by simp) hsources henvironment]
  · obtain ⟨e, he⟩ := Settings.load_saved_moment hnumbers hmoment (by simp) hsources henvironment
    exact ⟨e, by rw [Memory.run_loadSettings, he]⟩

/-- **Settings come back unchanged** if they have a namespace and the names of their wrappers are in lower case. -/
theorem run_loadSettings_unchanged (h : s.Suits path) (hnumbers : ∀ n ∈ c.numbers, n ≤ Toml.integerMax)
    (hmoment : ¬ c.ReadAsMoment) (hlower : ∀ name ∈ c.outline.wrappers.names, Settings.foldKey name = name)
    (hnamespace : c.outline.modelNamespace ≠ none) :
    ∃ s', (saveSettings Memory.host c path).run.run s = (.ok (), s') ∧
      (loadSettings Memory.host (some path)).run s' = (.ok c, s') := by
  obtain ⟨s', hsaved, hloaded, -⟩ := run_loadSettings_of_saved h hnumbers
  have hwrappers := (Settings.lowered_putAll c.outline.wrappers).eq_of_foldKey_eq hlower
  exact ⟨s', hsaved, by rw [hloaded hmoment, hwrappers, Settings.reread_self hnamespace]⟩

/-- **Settings that are saved are loaded again**, from a host without any other settings.  A namespace that is not there
comes back as the usual one, and the names of wrappers come back in lower case; if the first one is the name that a date
or a time has, nothing comes back.  If a number is too large, nothing is saved. -/
theorem saved_settings_reload (s : Memory) (path : String) (c : Settings) :
    ((∃ n ∈ c.numbers, Toml.integerMax < n) →
        ∃ e, (saveSettings Memory.host c path).run.run s = (.error (.save e), s)) ∧
      (s.Suits path → (∀ n ∈ c.numbers, n ≤ Toml.integerMax) →
        ∃ s', (saveSettings Memory.host c path).run.run s = (.ok (), s') ∧
          (¬ c.ReadAsMoment → ∃ wrappers, Settings.Lowered c.outline.wrappers wrappers ∧
            (loadSettings Memory.host (some path)).run s' = (.ok (c.reread wrappers), s')) ∧
          (c.ReadAsMoment → ∃ e, (loadSettings Memory.host (some path)).run s' = (.error e, s'))) := by
  refine ⟨fun ⟨n, hn, hlarge⟩ => ?_, fun h hnumbers => ?_⟩
  · obtain ⟨e, he⟩ := Settings.save_eq_error hn hlarge
    exact ⟨e, by rw [run_saveSettings_of_tooLarge Memory.host he path]; rfl⟩
  · obtain ⟨s', hsaved, hloaded, hmoment⟩ := run_loadSettings_of_saved h hnumbers
    exact ⟨s', hsaved, fun hwrappers => ⟨_, Settings.lowered_putAll _, hloaded hwrappers⟩, hmoment⟩

/-! ## Two settings that are saved -/

/-- A host with an empty folder. -/
def work : Memory :=
  .start "/work" []

theorem suits_work : work.Suits "saved.toml" where
  currentFolder := by decide
  extension := by decide
  full := by decide
  writable := ⟨_, rfl⟩
  alone := by
    have hread : ∀ name ∈ usualFiles ++ (userFile? work.environment).toList,
        ∀ full ∈ settingsPaths work.currentFolder name, (work.read full).toOption.isSome = false := by decide
    exact fun name hname full hfull hsome => absurd hsome (by rw [hread name hname full hfull]; decide)
  environment := by decide

/-- Settings with the listing for templates and another group of paths. -/
def viewed : Settings :=
  { Settings.default with
    output := { OutputSettings.default with view := true }
    outline := { OutlineSettings.default with naming := { NamingRules.default with tagIndex := some 1 } } }

theorem viewed_settings_reload : ∃ s', (saveSettings Memory.host viewed "saved.toml").run.run work = (.ok (), s') ∧
    ∃ wrappers, Settings.Lowered viewed.outline.wrappers wrappers ∧
      (loadSettings Memory.host (some "saved.toml")).run s' = (.ok (viewed.reread wrappers), s') := by
  obtain ⟨s', hsaved, hloaded, -⟩ := (saved_settings_reload work "saved.toml" viewed).2 suits_work (by decide)
  exact ⟨s', hsaved, hloaded (by decide)⟩

/-- The usual wrapper is lost when the usual settings are saved and loaded again. -/
theorem default_wrapper_is_lost : ∃ s' c',
    (saveSettings Memory.host Settings.default "saved.toml").run.run work = (.ok (), s') ∧
      (loadSettings Memory.host (some "saved.toml")).run s' = (.ok c', s') ∧
      Settings.default.outline.wrappers.get? "Result<T>" = some "result" ∧
      c'.outline.wrappers.get? "Result<T>" = none := by
  obtain ⟨s', hsaved, hloaded, -⟩ := run_loadSettings_of_saved suits_work (c := Settings.default) (by decide)
  exact ⟨s', _, hsaved, hloaded (by decide), by decide, by decide⟩

end ApiOutline.CommandLine
