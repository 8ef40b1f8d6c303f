/-
Updating a settings file.

* `parse_settingsText` — what is written of a document is read back as that document;
* `readText_of_updateSettings` — the text that is in the file after an update;
* `updateSettings_put` — an update of a file that an update has written;
* `updates_eq` — of several updates the last one counts.

Design notes: a document in memory has its members in order, and only whole numbers of 64 bits are
sure to be read as what they are written as.  An update changes nothing but the content of the
file, so that the next one finds the same file and as much space for it.
-/
import Mathlib.Data.List.Induction
import SageEditor.Proofs.File.Rewriting
import SageEditor.Proofs.Jsonc.Written
import SageEditor.Settings

namespace SageEditor

open Json (Spells)

/-! ### Texts of settings -/

theorem spells_settingsText {p : Json.Number → Prop} {v : Json} (h : v.Holds p) :
    Spells (Json.written v) (settingsText v).toList ['\n'] := by
  obtain ⟨us, hus, -⟩ := Jsonc.exists_takes h
  have hlines := (Json.spells_lines 0 v []).append_text (Jsonc.wellFormed_of_forall₂ hus) ['\n']
  have htext : (settingsText v).toList = Json.Write.lines 0 v [] ++ ['\n'] := by
    rw [settingsText, String.toList_append, Json.pretty, String.toList_ofList]
    rfl
  rwa [htext]

theorem isDocument_settingsText {p : Json.Number → Prop} {v : Json} (h : v.Holds p) :
    Jsonc.IsDocument (settingsText v).toList (.ofJson v) :=
  Jsonc.isDocument_of_spells h (spells_settingsText h) rfl

/-- The text of a document is read back, with comments allowed. -/
theorem parse_settingsText {v : Json} (h : v.Holds Json.Number.IsWhole) :
    Jsonc.parse (settingsText v) = .ok (some v) :=
  Jsonc.parse_eq_ok_some_iff.mpr ⟨_, isDocument_settingsText h, Jsonc.value_ofJson h⟩

/-- The text of a document is read back as JSON. -/
theorem jsonParse_settingsText {v : Json} (h : v.Holds Json.Number.IsWhole)
    (hdepth : v.Nested Json.Read.maxDepth) : Json.parse (settingsText v) = .ok v :=
  Json.run_of_spells (Json.reads_value _).toTakes (Json.isValue_written h hdepth)
    (spells_settingsText h) rfl

/-! ### Documents with the entry set -/

theorem holds_membersOf {p : Json.Number → Prop} {v : Json} (h : v.Holds p) :
    (Json.object v.membersOf).Holds p := by
  cases v with
  | object ms => exact h
  | _ => exact .object List.Pairwise.nil (by simp [Json.membersOf])

/-- The table of commands, empty where there is none. -/
theorem holds_table {p : Json.Number → Prop} {v : Json} (h : v.Holds p) :
    (Json.object (((v.membersOf.get? executorMapKey).map Json.membersOf).getD [])).Holds p := by
  cases hget : v.membersOf.get? executorMapKey with
  | none => exact .object List.Pairwise.nil (by simp)
  | some table => exact holds_membersOf ((holds_membersOf h).members.2 _ (Json.Object.mem_of_get? hget))

theorem holds_setExecutor {p : Json.Number → Prop} {v : Json} (h : v.Holds p)
    (mode : ExecutionMode) : (setExecutor v mode).Holds p :=
  (holds_membersOf h).insert ((holds_table h).insert (.string _) executorEntry) executorMapKey

/-- The entry that is set last is the one that counts. -/
theorem setExecutor_setExecutor (v : Json) (mode mode' : ExecutionMode) :
    setExecutor (setExecutor v mode) mode' = setExecutor v mode' := by
  have htable : executorMap ((setExecutor v mode).membersOf.get? executorMapKey) mode' =
      executorMap (v.membersOf.get? executorMapKey) mode' := by
    simp only [setExecutor, Json.membersOf, Json.Object.get?_insert, if_pos, executorMap,
      Option.map_some, Option.getD_some, Json.Object.insert_insert]
  rw [setExecutor, htable]
  simp only [setExecutor, Json.membersOf, Json.Object.insert_insert]

/-! ### One update -/

section Update

variable {fs : FileSystem} {p : Path} {l : Location} {content : Text.Bytes} {mode : ℕ}

/-- The file that an update leaves behind. -/
def updatedFile (old : Json) (mode : ℕ) (m : ExecutionMode) : Node :=
  .file (Text.Utf8.encode (settingsText (setExecutor old m))) mode

theorem readSettings_eq {text : String} {doc : Option Json} (htext : fs.readText p = .ok text)
    (hdoc : Jsonc.parse text = .ok doc) : readSettings fs p = .ok (doc.getD (.object [])) := by
  have hexists : fs.exists? p = true := by
    obtain ⟨bytes, l, mode, -, hfind⟩ := FileSystem.exists_find_of_readText htext
    rw [FileSystem.exists?, hfind]
    rfl
  simp [readSettings, hexists, htext, hdoc, bind, Except.bind, Except.mapError, pure, Except.pure]

/-- An update that finds space writes the document with the entry set. -/
theorem updateSettings_eq {old : Json} (hold : readSettings fs p = .ok old)
    (hopen : fs.openForWriting p = .ok (l, mode)) {m : ExecutionMode}
    (hfits : fs.Fits l mode (Text.Utf8.encode (settingsText (setExecutor old m)))) :
    updateSettings fs p m = (fs.put l (updatedFile old mode m), .ok (setExecutor old m)) := by
  have hwrite : fs.write p (Text.Utf8.encode (settingsText (setExecutor old m))) =
      (fs.put l (updatedFile old mode m), .ok ()) := by
    rw [FileSystem.write, hopen]
    exact FileSystem.fill_of_fits hfits
  simp only [updateSettings, hold, hwrite]

/-- An update that does not run out of space has found it. -/
theorem fits_of_ne_noSpace {old : Json} (hold : readSettings fs p = .ok old)
    (hopen : fs.openForWriting p = .ok (l, mode)) {m : ExecutionMode}
    (hspace : (updateSettings fs p m).2 ≠ .error (.unwritable p .noSpace)) :
    fs.Fits l mode (Text.Utf8.encode (settingsText (setExecutor old m))) := by
  by_contra hnot
  obtain ⟨room, -, hfill⟩ := FileSystem.fill_of_not_fits hnot
  refine hspace ?_
  rw [updateSettings, hold]
  simp only [FileSystem.write, hopen, hfill]

/-- An update that succeeds returns the document with the entry set. -/
theorem document_of_updateSettings {fs' : FileSystem} {old new : Json} {m : ExecutionMode}
    (hold : readSettings fs p = .ok old) (hupdate : updateSettings fs p m = (fs', .ok new)) :
    new = setExecutor old m := by
  rw [updateSettings, hold] at hupdate
  cases hwrite : fs.write p (Text.Utf8.encode (settingsText (setExecutor old m))) with
  | mk written outcome =>
    cases outcome with
    | error e => simp [hwrite] at hupdate
    | ok _ =>
      simp only [hwrite] at hupdate
      exact (Except.ok.inj (Prod.mk.inj hupdate).2).symm

/-- The text that is in the file after an update. -/
theorem readText_of_updateSettings {fs' : FileSystem} {text : String} {doc : Option Json}
    {m : ExecutionMode} {new : Json} (htext : fs.readText p = .ok text)
    (hparse : Jsonc.parse text = .ok doc) (hupdate : updateSettings fs p m = (fs', .ok new)) :
    fs'.readText p = .ok (settingsText (setExecutor (doc.getD (.object [])) m)) := by
  have hold := readSettings_eq htext hparse
  obtain ⟨bytes, l, bits, hread, hfind⟩ := FileSystem.exists_find_of_readText htext
  cases hopen : fs.openForWriting p with
  | error e => simp [updateSettings, hold, FileSystem.write, hopen] at hupdate
  | ok target =>
    obtain ⟨l', bits'⟩ := target
    obtain ⟨rfl, rfl⟩ := FileSystem.location_eq hfind hopen
    have hfits := fits_of_ne_noSpace hold hopen (m := m) (by simp [hupdate])
    rw [updateSettings_eq hold hopen hfits] at hupdate
    obtain ⟨rfl, -⟩ := Prod.mk.inj hupdate
    exact FileSystem.readText_put hfind hread _

/-- An update of a file that was updated is one of the file as it was before. -/
theorem updateSettings_put {old : Json} (hwhole : old.Holds Json.Number.IsWhole)
    (hfind : fs.find p = .ok (l, .file content mode)) (hread : fs.read p = .ok content)
    (hopen : fs.openForWriting p = .ok (l, mode)) {m m' : ExecutionMode}
    (hfits : fs.Fits l mode (Text.Utf8.encode (settingsText (setExecutor old m')))) :
    (updateSettings (fs.put l (updatedFile old mode m)) p m').1 =
      fs.put l (updatedFile old mode m') := by
  have hnode := (FileSystem.find_eq_ok_iff.mp hfind).2
  have htext : (fs.put l (updatedFile old mode m)).readText p =
      .ok (settingsText (setExecutor old m)) := FileSystem.readText_put hfind hread _
  have hnew : readSettings (fs.put l (updatedFile old mode m)) p = .ok (setExecutor old m) :=
    readSettings_eq htext (parse_settingsText (holds_setExecutor hwhole m))
  have hopen' := FileSystem.openForWriting_put hnode hopen
    (Text.Utf8.encode (settingsText (setExecutor old m)))
  have hfits' : (fs.put l (updatedFile old mode m)).Fits l mode
      (Text.Utf8.encode (settingsText (setExecutor (setExecutor old m) m'))) := by
    rw [setExecutor_setExecutor]
    exact (FileSystem.fits_put _).mpr hfits
  rw [updateSettings_eq hnew hopen' hfits', FileSystem.put_put, updatedFile,
    setExecutor_setExecutor]
  rfl

end Update

/-! ### Several updates -/

/-- Updates with several modes, one after the other. -/
def updates (fs : FileSystem) (p : Path) (modes : List ExecutionMode) : FileSystem :=
  modes.foldl (fun fs m => (updateSettings fs p m).1) fs

theorem updates_append (fs : FileSystem) (p : Path) (modes : List ExecutionMode)
    (m : ExecutionMode) :
    updates fs p (modes ++ [m]) = (updateSettings (updates fs p modes) p m).1 := by
  rw [updates, List.foldl_append]
  rfl

/-- Where the file cannot be written, nothing changes. -/
theorem updates_of_error {fs : FileSystem} {p : Path} {e : FileError}
    (hopen : fs.openForWriting p = .error e) (modes : List ExecutionMode) :
    updates fs p modes = fs := by
  have hone : ∀ m, (updateSettings fs p m).1 = fs := by
    intro m
    rw [updateSettings]
    cases readSettings fs p with
    | error => rfl
    | ok old => simp [FileSystem.write, hopen]
  induction modes with
  | nil => rfl
  | cons m modes ih =>
    rw [updates, List.foldl_cons, hone]
    exact ih

/-- Of updates of a file that find space for all that they write, the last one counts. -/
theorem updates_eq {fs : FileSystem} {p : Path} {old : Json} (hold : readSettings fs p = .ok old)
    (hwhole : old.Holds Json.Number.IsWhole) {l : Location} {content : Text.Bytes} {mode : ℕ}
    (hfind : fs.find p = .ok (l, .file content mode)) (hread : fs.read p = .ok content)
    (hopen : fs.openForWriting p = .ok (l, mode)) (modes : List ExecutionMode)
    (last : ExecutionMode)
    (hfits : ∀ m ∈ modes ++ [last],
      fs.Fits l mode (Text.Utf8.encode (settingsText (setExecutor old m)))) :
    updates fs p (modes ++ [last]) = fs.put l (updatedFile old mode last) := by
  have hlast := hfits last (by simp)
  -- The induction takes modes off the end, where the update that counts stands.
  induction modes using List.reverseRecOn generalizing last with
  | nil => rw [updates_append, updates, List.foldl_nil, updateSettings_eq hold hopen hlast]
  | append_singleton modes m ih =>
    have hm := ih m (fun m' hm' => hfits m' (List.mem_append_left _ hm')) (hfits m (by simp))
    rw [updates_append, hm, updateSettings_put hwhole hfind hread hopen hlast]

/-- Several updates are one with the last mode, wherever the file can be written. -/
theorem updateSettings_updates {fs : FileSystem} {p : Path} {text : String} {doc : Option Json}
    (htext : fs.readText p = .ok text) (hdoc : Jsonc.parse text = .ok doc)
    (hwhole : (doc.getD (.object [])).Holds Json.Number.IsWhole)
    {target : Location × ℕ} (hopen : fs.openForWriting p = .ok target)
    {modes : List ExecutionMode} {last : ExecutionMode}
    (hspace : ∀ m ∈ modes ++ [last], (updateSettings fs p m).2 ≠ .error (.unwritable p .noSpace)) :
    updateSettings fs p last =
      (updates fs p (modes ++ [last]), .ok (setExecutor (doc.getD (.object [])) last)) := by
  obtain ⟨l', mode⟩ := target
  obtain ⟨bytes, l, mode', hread, hfind⟩ := FileSystem.exists_find_of_readText htext
  obtain ⟨rfl, rfl⟩ := FileSystem.location_eq hfind hopen
  have hold := readSettings_eq htext hdoc
  have hfits := fun m hm => fits_of_ne_noSpace hold hopen (hspace m hm)
  rw [updates_eq hold hwhole hfind hread hopen modes last hfits,
    updateSettings_eq hold hopen (hfits last (by simp))]

/-- **Stable settings.**  The text of a document with whole numbers is read back as that document.
An update that succeeds leaves the text of the document with the entry set, and of several updates
of a file with such a document the last one counts; they succeed unless the file cannot be written
or there is no space for it. -/
theorem updateSettings_stable :
    (∀ v : Json, v.InOrder → (∀ n ∈ v.numbers, n.IsWhole) →
      Jsonc.parse (settingsText v) = .ok (some v) ∧
      (v.Nested 127 → Json.parse (settingsText v) = .ok v)) ∧
    ∀ (fs : FileSystem) (p : Path) (text : String) (doc : Option Json),
      fs.readText p = .ok text → Jsonc.parse text = .ok doc →
      (∀ n ∈ (doc.getD (.object [])).numbers, n.IsWhole) →
      (∀ m fs' new, updateSettings fs p m = (fs', .ok new) →
        new = setExecutor (doc.getD (.object [])) m ∧
        fs'.readText p = .ok (settingsText new) ∧
        Jsonc.parse (settingsText new) = .ok (some new)) ∧
      ∀ modes last, (∀ m ∈ modes ++ [last],
        (updateSettings fs p m).2 ≠ .error (.unwritable p .noSpace)) →
      updates fs p (modes ++ [last]) = (updateSettings fs p last).1 ∧
      ∀ target, fs.openForWriting p = .ok target →
        (updateSettings fs p last).2 = .ok (setExecutor (doc.getD (.object [])) last) ∧
        (updates fs p (modes ++ [last])).readText p =
          .ok (settingsText (setExecutor (doc.getD (.object [])) last)) := by
  refine ⟨fun v horder hwhole => ?_, fun fs p text doc htext hdoc hwhole => ?_⟩
  · have hholds := Json.holds_of_numbers horder hwhole
    exact ⟨parse_settingsText hholds, jsonParse_settingsText hholds⟩
  · have hholds := Json.holds_of_numbers (Jsonc.inOrder_of_parse hdoc) hwhole
    refine ⟨fun m fs' new hupdate => ?_, fun modes last hspace => ?_⟩
    · obtain rfl := document_of_updateSettings (readSettings_eq htext hdoc) hupdate
      exact ⟨rfl, readText_of_updateSettings htext hdoc hupdate,
        parse_settingsText (holds_setExecutor hholds m)⟩
    · cases hopen : fs.openForWriting p with
      | error e =>
        refine ⟨?_, fun target htarget => nomatch htarget⟩
        rw [updates_of_error hopen]
        exact (updates_of_error hopen [last]).symm
      | ok target =>
        have hlast := updateSettings_updates htext hdoc hholds hopen hspace
        exact ⟨congrArg Prod.fst hlast.symm, fun _ _ =>
          ⟨congrArg Prod.snd hlast, readText_of_updateSettings htext hdoc hlast⟩⟩

/-- A directory with nothing but a settings file, on a medium without end. -/
def settingsFolder (content : Text.Bytes) : FileSystem :=
  { nodes := [([Text.Utf8.encode "s.json"], .file content 0o644)]
    current := []
    capacity := none
    privileged := false }

/-- The path of this file. -/
def settingsPath : Path := ⟨Text.Utf8.encode "s.json"⟩

theorem settingsFolder_eq_put (content : Text.Bytes) : settingsFolder content =
    (settingsFolder []).put [Text.Utf8.encode "s.json"] (.file content 0o644) := by
  simp [settingsFolder, FileSystem.put, FileSystem.erase]

theorem find_settingsFolder_nil : (settingsFolder []).find settingsPath =
    .ok ([Text.Utf8.encode "s.json"], .file [] 0o644) := by
  decide +kernel

theorem readText_settingsFolder (text : String) :
    (settingsFolder (Text.Utf8.encode text)).readText settingsPath = .ok text := by
  have hread : (settingsFolder []).read settingsPath = .ok [] := by decide +kernel
  rw [settingsFolder_eq_put]
  exact FileSystem.readText_put find_settingsFolder_nil hread text

theorem openForWriting_settingsFolder (content : Text.Bytes) :
    (settingsFolder content).openForWriting settingsPath =
      .ok ([Text.Utf8.encode "s.json"], 0o644) := by
  have hopen : (settingsFolder []).openForWriting settingsPath =
      .ok ([Text.Utf8.encode "s.json"], 0o644) := by decide +kernel
  rw [settingsFolder_eq_put]
  exact FileSystem.openForWriting_put (FileSystem.find_eq_ok_iff.mp find_settingsFolder_nil).2
    hopen content

/-- An update of this file succeeds. -/
theorem updateSettings_settingsFolder {text : String} {doc : Option Json}
    (hparse : Jsonc.parse text = .ok doc) (m : ExecutionMode) :
    (updateSettings (settingsFolder (Text.Utf8.encode text)) settingsPath m).2 =
      .ok (setExecutor (doc.getD (.object [])) m) := by
  have hold := readSettings_eq (readText_settingsFolder text) hparse
  rw [updateSettings_eq hold (openForWriting_settingsFolder _) (FileSystem.fits_of_unlimited rfl)]

/-- A settings file with a comment, a comma too many and a whole number. -/
def commentedSettings : String := "// tabs\n\x7b\"editor.tabSize\": 4,\x7d"

/-- What is written in `commentedSettings`. -/
def commentedTree : Jsonc.Tree :=
  .object [("editor.tabSize", .number "4" ⟨false, ['4'], none, none⟩)]

theorem isDocument_commentedSettings : Jsonc.IsDocument commentedSettings.toList commentedTree := by
  refine ⟨[.openBrace, .string "editor.tabSize", .colon, .number "4" ⟨false, ['4'], none, none⟩,
    .comma, .closeBrace], ?_, ?_⟩
  · exact .cons rfl (.cons rfl (.cons rfl (.cons rfl (.cons rfl (.cons rfl (.nil rfl))))))
  · exact .object (.member rfl (.number _ _) .noMember true)

theorem parse_commentedSettings : Jsonc.parse commentedSettings =
    .ok (some (.object [("editor.tabSize", .number (.natural 4))])) :=
  Jsonc.parse_eq_ok_some_iff.mpr ⟨_, isDocument_commentedSettings, rfl⟩

/-- What an update leaves in this file. -/
def commentedUpdated : String :=
  "\x7b\n" ++
  "  \"code-runner.executorMapByFileExtension\": \x7b\n" ++
  "    \".sage\": \"sage $fullFileName\"\n" ++
  "  \x7d,\n" ++
  "  \"editor.tabSize\": 4\n" ++
  "\x7d\n"

theorem updateSettings_stable_commented :
    let fs := settingsFolder (Text.Utf8.encode commentedSettings)
    let new : Json := .object [
      ("code-runner.executorMapByFileExtension",
        .object [(".sage", .string "sage $fullFileName")]),
      ("editor.tabSize", .number (.natural 4))]
    (Jsonc.parse commentedUpdated = .ok (some new) ∧ Json.parse commentedUpdated = .ok new) ∧
    (updateSettings fs settingsPath .runOnly).1.readText settingsPath = .ok commentedUpdated ∧
    updates fs settingsPath ([.runAndClean, .runOnly] ++ [.runOnly]) =
      (updateSettings fs settingsPath .runOnly).1 ∧
    (updates fs settingsPath ([.runAndClean, .runOnly] ++ [.runOnly])).readText settingsPath =
      .ok commentedUpdated := by
  intro fs new
  have hset : setExecutor (.object [("editor.tabSize", .number (.natural 4))]) .runOnly = new := by
    have hfirst : executorMapKey < "editor.tabSize" := by decide +kernel
    simp only [setExecutor, Json.membersOf, Json.Object.insert, if_pos hfirst]
    rfl
  have hwritten : settingsText new = commentedUpdated := by decide +kernel
  have hfour : Json.Number.IsWhole (.natural 4) := by decide
  have horder : new.InOrder :=
    hset ▸ holds_setExecutor (Jsonc.inOrder_of_parse parse_commentedSettings) _
  have hone := updateSettings_settingsFolder parse_commentedSettings
  obtain ⟨hread, hstrict⟩ := updateSettings_stable.1 new horder
    (by simpa [new, Json.numbers, Json.numbersOfMembers] using hfour)
  obtain ⟨hleaves, hlast⟩ := updateSettings_stable.2 fs settingsPath _ _
    (readText_settingsFolder _) parse_commentedSettings
    (by simpa [Json.numbers, Json.numbersOfMembers] using hfour)
  obtain ⟨-, hupdated, -⟩ := hleaves .runOnly _ _ (Prod.ext rfl (hone .runOnly))
  obtain ⟨hsame, hopened⟩ := hlast [.runAndClean, .runOnly] .runOnly fun m _ hfull => by
    rw [hone] at hfull
    cases hfull
  obtain ⟨-, hfinal⟩ := hopened _ (openForWriting_settingsFolder _)
  rw [hwritten] at hread hstrict
  rw [Option.getD_some, hset, hwritten] at hupdated hfinal
  exact ⟨⟨hread, hstrict (by simp [new, Json.Nested])⟩, hupdated, hsame, hfinal⟩

end SageEditor
