/-
The tables in use after any number of messages.

* `Event.Loads` — the messages at which the server loads its tables;
* `IsLoaded` — what the tables of two files are, each by itself;
* `LastLoaded` — the tables as they were loaded last in a history;
* `tables_last_loaded` — these are the tables in use.

Design notes: a history begins with the request that begins a session, which changes the
configuration without a reload, and does not have it again.  From the first reload on the store
therefore has the paths of the configuration, since all later settings are followed by a reload.
-/
import SageEditor.Proofs.Server.History
import SageEditor.Proofs.Server.Settings

namespace SageEditor

/-! ### What is loaded -/

/-- The table of a file that may be missing; it is empty if the file cannot be read or parsed. -/
inductive TableOf {α : Type} (files : FileSystem) (parse : String → Except Json.ReadError α)
    (empty : α) : Option Path → α → Prop
  | unset : TableOf files parse empty none empty
  | unreadable {p e} (h : files.readText p = .error e) : TableOf files parse empty (some p) empty
  | malformed {p text e} (h : files.readText p = .ok text) (hparse : parse text = .error e) :
      TableOf files parse empty (some p) empty
  | parsed {p text a} (h : files.readText p = .ok text) (hparse : parse text = .ok a) :
      TableOf files parse empty (some p) a

theorem tableOf_iff {α : Type} {files : FileSystem} {parse : String → Except Json.ReadError α}
    {empty a : α} {path : Option Path} :
    TableOf files parse empty path a ↔ (files.loadTable parse empty path).1 = a := by
  constructor
  · intro h
    cases h with
    | unset => rfl
    | unreadable h => simp [FileSystem.loadTable, FileSystem.load, h, orElse]
    | malformed h hparse => simp [FileSystem.loadTable, FileSystem.load, h, hparse, orElse]
    | parsed h hparse => simp [FileSystem.loadTable, FileSystem.load, h, hparse, orElse]
  · rintro rfl
    cases path with
    | none => exact .unset
    | some p =>
      rw [FileSystem.loadTable, FileSystem.load]
      cases h : files.readText p with
      | error e => exact .unreadable h
      | ok text =>
        simp only
        cases hparse : parse text with
        | error e => exact .malformed h hparse
        | ok a => exact .parsed h hparse

/-- The tables of two files, of which neither depends on the other. -/
structure IsLoaded (files : FileSystem) (paths : DataPaths) (data : LanguageData) : Prop where
  catalog : TableOf files Catalog.parse .empty paths.symbols data.catalog
  keywords : TableOf files Keywords.parse [] paths.keywords data.keywords

theorem load_fst (files : FileSystem) (paths : DataPaths) :
    (LanguageData.load files paths).1 =
      ⟨(files.loadTable Catalog.parse .empty paths.symbols).1,
        (files.loadTable Keywords.parse [] paths.keywords).1⟩ := rfl

theorem isLoaded_iff {files : FileSystem} {paths : DataPaths} {data : LanguageData} :
    IsLoaded files paths data ↔ (LanguageData.load files paths).1 = data := by
  obtain ⟨catalog, keywords⟩ := data
  constructor
  · rintro ⟨hcatalog, hkeywords⟩
    rw [load_fst, tableOf_iff.mp hcatalog, tableOf_iff.mp hkeywords]
  · intro h
    obtain ⟨hcatalog, hkeywords⟩ := LanguageData.mk.inj h
    exact ⟨tableOf_iff.mpr hcatalog, tableOf_iff.mpr hkeywords⟩

/-! ### What events do to the tables and the settings -/

namespace Event

/-- Whether the tables are loaded. -/
def Loads : Event → Prop
  | .told .initialized | .told (.configured _) => True
  | .asked (.execute command _) => command = "sage.reloadSymbols"
  | _ => False

/-- Whether a session begins. -/
def StartsUp : Event → Prop
  | .asked (.startUp _) => True
  | _ => False

/-- The settings that come with an event. -/
def payloads : Event → List Json
  | .asked (.startUp options) => options.toList
  | .told (.configured v) => [v]
  | _ => []

theorem payloads_eq_nil {e : Event} (hload : ¬ e.Loads) (hstart : ¬ e.StartsUp) :
    e.payloads = [] := by
  cases e with
  | asked r =>
    cases r with
    | startUp options => exact absurd trivial hstart
    | _ => rfl
  | told n =>
    cases n with
    | configured v => exact absurd trivial hload
    | _ => rfl

end Event

namespace Server

variable (s : Server) (files : FileSystem) (e : Event)

theorem changeDocument_fold (url : String) (texts : List String) :
    (texts.foldl (fun s text => s.changeDocument url text) s).store = s.store ∧
    (texts.foldl (fun s text => s.changeDocument url text) s).configuration =
      s.configuration := by
  induction texts generalizing s with
  | nil => exact ⟨rfl, rfl⟩
  | cons text texts ih => exact ih (s.changeDocument url text)

theorem next_configuration :
    (s.next files e).configuration = s.configuration.afterAll e.payloads := by
  cases e with
  | asked r =>
    cases r with
    | startUp options => cases options <;> rfl
    | execute command arguments =>
      rw [next]
      split <;> rfl
    | _ => rfl
  | told n =>
    cases n with
    | changed url texts => exact (s.changeDocument_fold url texts).2
    | _ => rfl

theorem next_store_of_loads {e : Event} (h : e.Loads) :
    (s.next files e).store = ⟨(s.next files e).configuration.paths,
      (LanguageData.load files (s.next files e).configuration.paths).1⟩ := by
  cases e with
  | asked r =>
    cases r with
    | execute command arguments =>
      have hcommand : command = "sage.reloadSymbols" := h
      rw [next, if_pos hcommand]
      rfl
    | _ => exact h.elim
  | told n =>
    cases n with
    | initialized => rfl
    | configured v => rfl
    | _ => exact h.elim

theorem next_store_of_not_loads {e : Event} (h : ¬ e.Loads) :
    (s.next files e).store = s.store := by
  cases e with
  | asked r =>
    cases r with
    | startUp options => cases options <;> rfl
    | execute command arguments =>
      have hcommand : command ≠ "sage.reloadSymbols" := h
      rw [next, if_neg hcommand]
    | _ => rfl
  | told n =>
    cases n with
    | initialized => exact absurd trivial h
    | configured v => exact absurd trivial h
    | changed url texts => exact (s.changeDocument_fold url texts).1
    | _ => rfl

/-! ### Whole histories -/

variable (launch : Launcher)

theorem run_configuration (h : List Moment) :
    (s.run launch h).configuration =
      s.configuration.afterAll (h.flatMap (·.event.payloads)) := by
  induction h generalizing s with
  | nil => rfl
  | cons m h ih =>
    rw [run_cons, ih, next_configuration, List.flatMap_cons, Configuration.afterAll_append]

theorem run_store_of_not_loads {h : List Moment} (hnone : ∀ m ∈ h, ¬ m.event.Loads) :
    (s.run launch h).store = s.store := by
  induction h generalizing s with
  | nil => rfl
  | cons m h ih =>
    obtain ⟨hm, hrest⟩ := List.forall_mem_cons.mp hnone
    rw [run_cons, ih _ hrest, next_store_of_not_loads _ _ hm]

/-- The store is as the last reload left it. -/
theorem run_store_of_loads {before after : List Moment} {m : Moment} (hm : m.event.Loads)
    (hafter : ∀ m' ∈ after, ¬ m'.event.Loads) :
    (s.run launch (before ++ m :: after)).store =
      ⟨(s.run launch (before ++ [m])).configuration.paths,
        (LanguageData.load m.files (s.run launch (before ++ [m])).configuration.paths).1⟩ := by
  rw [List.append_cons, run_append, run_store_of_not_loads _ _ hafter, run_append, run_cons,
    run_nil, next_store_of_loads _ _ hm]

end Server

/-! ### Histories of a session -/

/-- A history begins with the request that begins a session, and does not have it again. -/
def Lawful : List Moment → Prop
  | [] => True
  | m :: h => m.event.StartsUp ∧ ∀ m' ∈ h, ¬ m'.event.StartsUp

theorem Lawful.not_startsUp {before after : List Moment} {m : Moment}
    (h : Lawful (before ++ m :: after)) : ∀ m' ∈ after, ¬ m'.event.StartsUp := by
  intro m' hm'
  cases before with
  | nil => exact h.2 m' hm'
  | cons m₀ before => exact h.2 m' (List.mem_append_right before (List.mem_cons_of_mem m hm'))

/-- The configuration after a history, by the settings that came. -/
def configurationAfter (paths : DataPaths) (h : List Moment) : Configuration :=
  (Configuration.start paths).afterAll (h.flatMap (·.event.payloads))

/-- The tables as they were loaded last, from the paths and with the files of that moment. -/
inductive LastLoaded (paths : DataPaths) : List Moment → LanguageData → Prop
  | never {h} (hnone : ∀ m ∈ h, ¬ m.event.Loads) : LastLoaded paths h .empty
  | last {before m after data} (hm : m.event.Loads) (hafter : ∀ m' ∈ after, ¬ m'.event.Loads)
      (hdata : IsLoaded m.files (configurationAfter paths (before ++ [m])).paths data) :
      LastLoaded paths (before ++ m :: after) data

section

variable (launch : Launcher) (paths : DataPaths) (debug : Bool)

theorem configuration_eq (h : List Moment) :
    ((Server.start paths debug).run launch h).configuration = configurationAfter paths h :=
  (Server.start paths debug).run_configuration launch h

theorem lastLoaded_iff {h : List Moment} {data : LanguageData} :
    LastLoaded paths h data ↔ ((Server.start paths debug).run launch h).store.current = data := by
  constructor
  · intro hlast
    cases hlast with
    | never hnone => rw [Server.run_store_of_not_loads _ _ hnone, Server.start, DataStore.ofData]
    | last hm hafter hdata =>
      rw [Server.run_store_of_loads _ _ hm hafter, configuration_eq]
      exact isLoaded_iff.mp hdata
  · rintro rfl
    by_cases hload : ∃ m ∈ h, m.event.Loads
    · obtain ⟨before, m, after, rfl, hm, hafter⟩ := exists_last hload
      rw [Server.run_store_of_loads _ _ hm hafter, configuration_eq]
      exact .last hm hafter (isLoaded_iff.mpr rfl)
    · have hnone : ∀ m ∈ h, ¬ m.event.Loads := fun m hm hmload => hload ⟨m, hm, hmload⟩
      rw [Server.run_store_of_not_loads _ _ hnone]
      exact .never hnone

/-- From the first reload on, the store has the paths of the configuration. -/
theorem store_paths {h : List Moment} (hlawful : Lawful h) (hload : ∃ m ∈ h, m.event.Loads) :
    ((Server.start paths debug).run launch h).store.paths =
      ((Server.start paths debug).run launch h).configuration.paths := by
  obtain ⟨before, m, after, rfl, hm, hafter⟩ := exists_last hload
  -- nothing that comes after the last reload has settings
  have hquiet : after.flatMap (·.event.payloads) = [] :=
    List.flatMap_eq_nil_iff.mpr fun m' hm' =>
      Event.payloads_eq_nil (hafter m' hm') (hlawful.not_startsUp m' hm')
  have hconfiguration :
      ((Server.start paths debug).run launch (before ++ m :: after)).configuration =
        ((Server.start paths debug).run launch (before ++ [m])).configuration := by
    rw [List.append_cons, Server.run_append, Server.run_configuration _ _ after, hquiet]
    rfl
  rw [Server.run_store_of_loads _ _ hm hafter, hconfiguration]

/-- **The tables in use are those of the last reload**, and empty before the first one.  Hovers and
completions are answered from them, whatever has happened to the files since.  The configuration is
given by the settings that came, and from the first reload on the store has its paths. -/
theorem tables_last_loaded {h : List Moment} (hlawful : Lawful h) :
    let s := (Server.start paths debug).run launch h
    s.configuration = configurationAfter paths h ∧
    (∀ data, LastLoaded paths h data ↔ s.store.current = data) ∧
    (∀ t : Turn, t.server = s → ∀ url p,
      (t.answer launch (.hover url p)).2 =
        .ok (hoverAnswer (s.document? url) s.store.current p) ∧
      (t.answer launch (.completion url p)).2 =
        .ok (completionAnswer (s.document? url) s.store.current p s.configuration.matchCase)) ∧
    ((∃ m ∈ h, m.event.Loads) → s.store.paths = s.configuration.paths) := by
  refine ⟨configuration_eq launch paths debug h, fun data => lastLoaded_iff launch paths debug,
    ?_, store_paths launch paths debug hlawful⟩
  rintro t hserver url p
  rw [t.answer_hover, t.answer_completion, hserver]
  exact ⟨rfl, rfl⟩

end

/-- A directory with a file of symbols, and one of keywords that is cut off. -/
def filesWith (symbols : String) : FileSystem :=
  { nodes := [
      ([Text.Utf8.encode "s.json"], .file (Text.Utf8.encode symbols) FileSystem.fileMode),
      ([Text.Utf8.encode "k.json"], .file (Text.Utf8.encode "[\"if\"") FileSystem.fileMode)]
    current := []
    capacity := none
    privileged := false }

def piText : String := "\x7b\"constants\": [\x7b\"name\": \"pi\", \"doc\": \"\"\x7d]\x7d"

theorem parse_piText : Catalog.parse piText = .ok ⟨[], [], [⟨"pi", ""⟩]⟩ := by
  decide +kernel

theorem readText_filesWith_piText :
    (filesWith piText).readText (.ofString "s.json") = .ok piText ∧
      (filesWith piText).readText (.ofString "k.json") = .ok "[\"if\"" := by
  decide +kernel

theorem parse_cutOff : Keywords.parse "[\"if\"" = .error ⟨.endInList, 1, 5⟩ := by
  decide +kernel

def bothPaths : DataPaths := ⟨some (.ofString "s.json"), some (.ofString "k.json")⟩

/-- A session in which the symbols change on the disk after they have been loaded. -/
def staleHistory : List Moment := [
  ⟨filesWith piText, .asked (.startUp none)⟩,
  ⟨filesWith piText, .told .initialized⟩,
  ⟨filesWith "[]", .told (.opened "file:///a.sage" "pi")⟩]

theorem tables_last_loaded_stale :
    let s := (Server.start bothPaths false).run (fun _ _ _ => .error .notFound) staleHistory
    s.store.current = ⟨⟨[], [], [⟨"pi", ""⟩]⟩, []⟩ ∧ s.store.paths = s.configuration.paths := by
  intro s
  have hlawful : Lawful staleHistory := ⟨trivial, by simp [Event.StartsUp]⟩
  obtain ⟨-, hserved, -, hpaths⟩ :=
    tables_last_loaded (fun _ _ _ => .error .notFound) bothPaths false hlawful
  obtain ⟨hsymbols, hkeywords⟩ := readText_filesWith_piText
  have hlast : LastLoaded bothPaths ([staleHistory[0]] ++ staleHistory[1] :: [staleHistory[2]])
      ⟨⟨[], [], [⟨"pi", ""⟩]⟩, []⟩ :=
    .last trivial (by simp [staleHistory, Event.Loads])
      ⟨.parsed hsymbols parse_piText, .malformed hkeywords parse_cutOff⟩
  exact ⟨(hserved _).mp hlast, hpaths ⟨staleHistory[1], by simp [staleHistory], trivial⟩⟩

end SageEditor
