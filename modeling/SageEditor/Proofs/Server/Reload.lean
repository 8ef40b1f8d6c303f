/-
What the command that reloads the tables answers.

* `Fails` — a data file is configured and cannot be read or parsed;
* `Turn.Shows` — the client has been sent a message to show;
* `LanguageData.count`, `itemsOf` — how many names of a kind the tables have, and how many items of
  a kind there are in the answer to a completion;
* `reload_answers` — the answer, the messages sent meanwhile and the completions up to the next
  reload all tell the same.

Design notes: the report of a reload is the middle term: what failed is in it, every part of it that
is there makes one message, and its flag is in the answer.  The counts are those of the tables that
completions are made from until they are loaded again, and a prefix without characters leaves none
of the names out, in either way of comparing.
-/
import SageEditor.Proofs.Assistance.Lookup
import SageEditor.Proofs.Server.Tables

namespace SageEditor

/-! ### Files that fail -/

/-- A data file that is configured cannot be read or parsed. -/
def Fails {α : Type} (files : FileSystem) (parse : String → Except Json.ReadError α)
    (path : Option Path) : Prop :=
  ∃ p, path = some p ∧ ((∃ e, files.readText p = .error e) ∨
    ∃ text e, files.readText p = .ok text ∧ parse text = .error e)

section

variable {α : Type} {files : FileSystem} {parse : String → Except Json.ReadError α} {empty a : α}
  {path : Option Path}

theorem fails_iff (empty : α) :
    Fails files parse path ↔ (files.loadTable parse empty path).2 ≠ none := by
  cases path with
  | none => simp [Fails, FileSystem.loadTable]
  | some p =>
    rw [FileSystem.loadTable, FileSystem.load]
    cases h : files.readText p with
    | error e => simp [Fails, h, orElse]
    | ok text => cases hparse : parse text <;> simp [Fails, h, hparse, orElse]

/-- Of a file that fails nothing is in the table. -/
theorem TableOf.eq_empty (h : TableOf files parse empty path a) (hfails : Fails files parse path) :
    a = empty := by
  obtain ⟨p, rfl, hcause⟩ := hfails
  cases h with
  | unreadable => rfl
  | malformed => rfl
  | parsed hread hparse =>
    rcases hcause with ⟨e, herror⟩ | ⟨text, e, htext, herror⟩
    · cases hread.symm.trans herror
    · obtain rfl := Except.ok.inj (hread.symm.trans htext)
      cases hparse.symm.trans herror

end

theorem load_isOk_iff (files : FileSystem) (paths : DataPaths) :
    (LanguageData.load files paths).2.isOk = true ↔
      ¬ Fails files Catalog.parse paths.symbols ∧ ¬ Fails files Keywords.parse paths.keywords := by
  rw [fails_iff Catalog.empty, fails_iff [], not_not, not_not,
    ← Option.isNone_iff_eq_none, ← Option.isNone_iff_eq_none, ← Bool.and_eq_true]
  rfl

/-! ### Messages to show -/

/-- A message that the client is to show. -/
def Notice.IsShown (n : Notice) : Prop :=
  n.toJson.member? "method" = some (.string "window/showMessage")

theorem Notice.not_isShown_log (severity : Severity) (text : String) :
    ¬ (Notice.log severity text).IsShown := by
  simp [IsShown, toJson, Json.mkObject, Json.Object.ofList, Json.member?, Json.Object.get?_insert]

theorem Notice.isShown_popUp (severity : Severity) (text : String) :
    (Notice.popUp severity text).IsShown := by
  simp [IsShown, toJson, Json.mkObject, Json.Object.ofList, Json.member?, Json.Object.get?_insert]

namespace Turn

variable (t : Turn)

/-- The client has been sent a message to show. -/
def Shows : Prop := ∃ n ∈ t.sent, n.IsShown

theorem shows_log (severity : Severity) (text : String) :
    (t.send (.log severity text)).Shows ↔ t.Shows := by
  simp [Shows, send, or_and_right, exists_or, Notice.not_isShown_log]

theorem shows_popUp (severity : Severity) (text : String) :
    (t.send (.popUp severity text)).Shows :=
  ⟨_, List.mem_concat_self, Notice.isShown_popUp severity text⟩

theorem shows_trace (text : String) : (t.trace text).Shows ↔ t.Shows := by
  rw [trace]
  split
  · exact t.shows_log _ _
  · rfl

theorem shows_reportSymbols (path : Option Path) (error : Option LoadError) :
    (t.reportSymbols path error).Shows ↔ t.Shows ∨ error ≠ none := by
  cases error with
  | some e => exact iff_of_true (shows_popUp _ _ _) (.inr nofun)
  | none => cases path <;> simp [reportSymbols, shows_log]

theorem shows_reportKeywords (error : Option LoadError) :
    (t.reportKeywords error).Shows ↔ t.Shows ∨ error ≠ none := by
  cases error with
  | some e => exact iff_of_true (shows_popUp _ _ _) (.inr nofun)
  | none => simp [reportKeywords]

theorem report_reload :
    t.reload.2 = (LanguageData.load t.files t.server.configuration.paths).2 := rfl

/-- A reload shows a message exactly for what it reports. -/
theorem shows_reload : t.reload.1.Shows ↔ t.Shows ∨ t.reload.2.isOk = false := by
  have hsent : t.reload.1.Shows ↔
      (t.Shows ∨ t.reload.2.symbols ≠ none) ∨ t.reload.2.keywords ≠ none := by
    rw [report_reload]
    exact (shows_reportKeywords _ _).trans (or_congr_left (shows_reportSymbols _ _ _))
  rw [hsent, or_assoc, LoadReport.isOk]
  cases t.reload.2.symbols <;> cases t.reload.2.keywords <;> simp

end Turn

/-! ### Counts -/

/-- How many names of a kind the tables have. -/
def LanguageData.count (data : LanguageData) : SymbolKind → ℕ
  | .classSymbol => data.catalog.classes.length
  | .function => data.catalog.functions.length
  | .constant => data.catalog.constants.length
  | .keyword => data.keywords.length

/-- The member of the answer that counts the names of a kind. -/
def SymbolKind.countName : SymbolKind → String
  | .classSymbol => "classes"
  | .function => "functions"
  | .constant => "constants"
  | .keyword => "keywords"

/-- The number by which a completion item tells its kind. -/
def itemKind? (item : Json) : Option ℕ :=
  match item.member? "kind" with
  | some (.number (.natural n)) => some n
  | _ => none

/-- How many items of a kind are in the answer to a completion. -/
def itemsOf (kind : SymbolKind) : Json → ℕ
  | .array items => items.countP fun item => itemKind? item = some kind.completionCode
  | _ => 0

theorem Candidate.itemKind?_toJson (c : Candidate) :
    itemKind? c.toJson = some c.kind.completionCode := by
  rw [itemKind?, c.member?_kind]
  rfl

theorem SymbolKind.completionCode_inj {kind kind' : SymbolKind} :
    kind.completionCode = kind'.completionCode ↔ kind = kind' := by
  cases kind <;> cases kind' <;> decide

theorem itemsOf_candidates (kind : SymbolKind) (cs : List Candidate) :
    itemsOf kind (.array (cs.map Candidate.toJson)) = cs.countP (·.kind = kind) := by
  rw [itemsOf, List.countP_map]
  refine List.countP_congr fun c _ => ?_
  simp [Candidate.itemKind?_toJson, SymbolKind.completionCode_inj]

namespace LanguageData

/-- Among all candidates are as many of a kind as the tables have. -/
theorem countP_candidates (data : LanguageData) (kind : SymbolKind) :
    data.candidates.countP (·.kind = kind) = data.count kind := by
  have hsymbols : ∀ (k : SymbolKind) (symbols : List Symbol),
      (symbols.map fun s => Candidate.ofSymbol k s).countP (·.kind = kind) =
        if k = kind then symbols.length else 0 := by
    intro k symbols
    rw [List.countP_map]
    by_cases hk : k = kind <;> simp [Function.comp_def, Candidate.ofSymbol, hk]
  have hkeywords : (data.keywords.map Candidate.ofKeyword).countP (·.kind = kind) =
      if SymbolKind.keyword = kind then data.keywords.length else 0 := by
    rw [List.countP_map]
    by_cases hk : SymbolKind.keyword = kind <;> simp [Function.comp_def, Candidate.ofKeyword, hk]
  rw [candidates, List.countP_append, hkeywords, Catalog.entries, List.map_flatMap,
    List.countP_flatMap]
  simp only [Catalog.groups, List.map_cons, List.map_nil, List.sum_cons, List.sum_nil,
    List.map_map, Function.comp_def, hsymbols]
  cases kind <;> simp [count]

end LanguageData

/-- What is answered to a completion of an empty prefix has as many items of a kind as the tables
have names of that kind. -/
theorem itemsOf_completionAnswer {d : Option Document} {p : Position}
    (hempty : (d.map (·.prefixAt p)).getD "" = "") (data : LanguageData) (mode : MatchCase)
    (kind : SymbolKind) : itemsOf kind (completionAnswer d data p mode) = data.count kind := by
  rw [completionAnswer, itemsOf_candidates, completions, hempty, LanguageData.complete_empty,
    LanguageData.countP_candidates]

/-! ### The command -/

section

variable (launch : Launcher) (s : Server) (files : FileSystem) (arguments : List Json)

/-- The turn in which the command is executed, and its answer. -/
def reloadTurn : Turn × Except ResponseError Json :=
  Turn.answer launch ⟨files, s, []⟩ (.execute "sage.reloadSymbols" arguments)

theorem reloadTurn_eq : ∃ t : Turn, t.files = files ∧ t.server = s ∧ ¬ t.Shows ∧
    reloadTurn launch s files arguments =
      (t.reload.1, .ok (Turn.reloadAnswer t.reload.2 t.reload.1.server.store.current)) := by
  refine ⟨Turn.trace ⟨files, s, []⟩ ("Execute command: " ++ "sage.reloadSymbols"),
    Turn.files_trace _ _, Turn.server_trace _ _, ?_, ?_⟩
  · rw [Turn.shows_trace]
    rintro ⟨n, hn, -⟩
    cases hn
  · rw [reloadTurn, Turn.answer, Turn.execute, Turn.ofName?_eq_reloadSymbols_iff.mpr rfl]
    rfl

theorem member?_reloadAnswer_ok (report : LoadReport) (data : LanguageData) :
    (Turn.reloadAnswer report data).member? "ok" = some (.bool report.isOk) := by
  simp [Turn.reloadAnswer, Json.mkObject, Json.Object.ofList, Json.member?,
    Json.Object.get?_insert]

theorem member?_reloadAnswer_count (report : LoadReport) (data : LanguageData)
    (kind : SymbolKind) : (Turn.reloadAnswer report data).member? kind.countName =
      some (.ofNat (data.count kind)) := by
  cases kind <;> simp [Turn.reloadAnswer, Json.mkObject, Json.Object.ofList, Json.member?,
    Json.Object.get?_insert, SymbolKind.countName, LanguageData.count]

/-- **The reload command reports what it did**, in any state of the server and with any files.  It
answers whether all went well and how many names of each kind there are.  All went well exactly if
the client has not been sent a message to show meanwhile, and that is so unless a file that is
configured could not be read or parsed.  The counts are those of the tables of the two files, each
by itself, and so zero for one that failed.  Until the next reload they are the numbers of items of
each kind that every completion of an empty prefix answers. -/
theorem reload_answers :
    ∃ answer ok data, (reloadTurn launch s files arguments).2 = .ok answer ∧
      answer.member? "ok" = some (.bool ok) ∧
      (∀ kind : SymbolKind, answer.member? kind.countName = some (.ofNat (data.count kind))) ∧
      (ok = true ↔ ¬ (reloadTurn launch s files arguments).1.Shows) ∧
      (ok = false ↔ Fails files Catalog.parse s.configuration.paths.symbols ∨
        Fails files Keywords.parse s.configuration.paths.keywords) ∧
      IsLoaded files s.configuration.paths data ∧
      (Fails files Catalog.parse s.configuration.paths.symbols →
        ∀ kind, kind ≠ .keyword → data.count kind = 0) ∧
      (Fails files Keywords.parse s.configuration.paths.keywords → data.count .keyword = 0) ∧
      ∀ h : List Moment, (∀ m ∈ h, ¬ m.event.Loads) →
        ∀ t : Turn, t.server = (reloadTurn launch s files arguments).1.server.run launch h →
          ∀ url p, ((t.server.document? url).map (·.prefixAt p)).getD "" = "" →
            ∃ items, (t.answer launch (.completion url p)).2 = .ok items ∧
              ∀ kind, itemsOf kind items = data.count kind := by
  obtain ⟨t, rfl, rfl, hquiet, hturn⟩ := reloadTurn_eq launch s files arguments
  have hserver : t.reload.1.server.store.current =
      (LanguageData.load t.files t.server.configuration.paths).1 := by
    rw [Turn.server_reload]
    rfl
  have hloaded : IsLoaded t.files t.server.configuration.paths t.reload.1.server.store.current :=
    isLoaded_iff.mpr hserver.symm
  rw [hturn]
  refine ⟨_, t.reload.2.isOk, _, rfl, member?_reloadAnswer_ok _ _, member?_reloadAnswer_count _ _,
    ?_, ?_, hloaded, fun hfails kind hkind => ?_, fun hfails => ?_, ?_⟩
  · rw [Turn.shows_reload, or_iff_right hquiet, Bool.not_eq_false]
  · rw [← Bool.not_eq_true, Turn.report_reload, load_isOk_iff, not_and_or, not_not, not_not]
  · have hempty := hloaded.catalog.eq_empty hfails
    cases kind with
    | keyword => exact absurd rfl hkind
    | _ => rw [LanguageData.count, hempty]; rfl
  · rw [LanguageData.count, hloaded.keywords.eq_empty hfails, List.length_nil]
  · intro h hnone later hlater url p hprefix
    refine ⟨_, later.answer_completion launch url p, fun kind => ?_⟩
    rw [itemsOf_completionAnswer hprefix, hlater, Server.run_store_of_not_loads _ _ hnone]

end

/-- A good file of symbols beside a malformed one of keywords: the answer tells of the failure and
counts the one constant, which is then offered in a document that has been opened since. -/
theorem reload_answers_half :
    ∃ answer, (reloadTurn (fun _ _ _ => .error .notFound) (.start bothPaths true)
        (filesWith piText) []).2 = .ok answer ∧
      answer.member? "ok" = some (.bool false) ∧
      answer.member? "constants" = some (.ofNat 1) ∧ answer.member? "keywords" = some (.ofNat 0) ∧
      ∀ t : Turn, t.server = (reloadTurn (fun _ _ _ => .error .notFound) (.start bothPaths true)
          (filesWith piText) []).1.server.run (fun _ _ _ => .error .notFound)
          [⟨filesWith "[]", .told (.opened "file:///a.sage" "pi")⟩] →
        ∃ items, (t.answer (fun _ _ _ => .error .notFound)
          (.completion "file:///a.sage" ⟨0, 0⟩)).2 = .ok items ∧ itemsOf .constant items = 1 := by
  obtain ⟨answer, ok, data, hanswer, hok, hcounts, -, hfailed, hloaded, -, hkeywords, hlater⟩ :=
    reload_answers (fun _ _ _ => .error .notFound) (.start bothPaths true) (filesWith piText) []
  obtain ⟨hsymbols, hread⟩ := readText_filesWith_piText
  have hfails : Fails (filesWith piText) Keywords.parse bothPaths.keywords :=
    ⟨_, rfl, .inr ⟨_, _, hread, parse_cutOff⟩⟩
  have hcatalog : data.catalog = ⟨[], [], [⟨"pi", ""⟩]⟩ :=
    (tableOf_iff.mp hloaded.catalog).symm.trans (tableOf_iff.mp (.parsed hsymbols parse_piText))
  have hone : data.count .constant = 1 := by rw [LanguageData.count, hcatalog]; rfl
  obtain rfl := hfailed.mpr (.inr hfails)
  refine ⟨answer, hanswer, hok, hone ▸ hcounts .constant, ?_, fun t ht => ?_⟩
  · exact hkeywords hfails ▸ hcounts .keyword
  · have hprefix : ((t.server.document? "file:///a.sage").map (·.prefixAt ⟨0, 0⟩)).getD "" = "" := by
      have hopen : t.server.document? "file:///a.sage" = some ⟨"pi"⟩ := by
        rw [ht, Server.run_cons, Server.run_nil]
        simp [Server.next, Server.document?, Server.openDocument]
      have hstart : Document.prefixAt ⟨"pi"⟩ ⟨0, 0⟩ = "" := by decide +kernel
      rw [hopen]
      exact hstart
    obtain ⟨items, hitems, hall⟩ := hlater _ (by simp [Event.Loads]) t ht _ _ hprefix
    exact ⟨items, hitems, hone ▸ hall .constant⟩

end SageEditor
