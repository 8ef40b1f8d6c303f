/-
What an update of a settings file leaves behind when it fails.

* `updateSettings_failed` — nothing has changed, or the file holds the beginning of its new text;
* `updateSettings_full` — on a full medium a settings file is lost.

Design notes: the document is read and parsed before the file is opened, so that only a failure
while the new text is written comes too late.
-/
import SageEditor.Proofs.Settings.Update

namespace SageEditor

open FileSystem (write_cases content?_of_find of_openForWriting)
open Text (Utf8.encode)

/-- What an update writes. -/
def updatedText (old : Json) (m : ExecutionMode) : Text.Bytes :=
  Utf8.encode (settingsText (setExecutor old m))

/-- **An update that fails before it has opened the file changes nothing.**  One that fails later
has emptied the file, or made a new one, and leaves as much of the new text in it as there was
space for: the file is what it was only if it held just that before. -/
theorem updateSettings_failed {fs fs' : FileSystem} {p : Path} {m : ExecutionMode}
    {e : SettingsError} (h : updateSettings fs p m = (fs', .error e)) :
    fs' = fs ∧ (readSettings fs p = .error e ∨ ∃ old cause, readSettings fs p = .ok old ∧
      fs.openForWriting p = .error cause ∧ e = .unwritable p cause) ∨
    ∃ old l mode room, readSettings fs p = .ok old ∧ fs.openForWriting p = .ok (l, mode) ∧
      e = .unwritable p .noSpace ∧ room < (updatedText old m).length ∧
      fs' = fs.put l (.file ((updatedText old m).take room) mode) ∧
      fs'.content? p = some ((updatedText old m).take room) ∧
      ∀ l', l' ≠ l → fs'.node? l' = fs.node? l' := by
  rw [updateSettings] at h
  cases hold : readSettings fs p with
  | error e' =>
    rw [hold] at h
    obtain ⟨hfs, he⟩ := Prod.mk.inj h
    exact .inl ⟨hfs.symm, .inl (by rw [Except.error.inj he])⟩
  | ok old =>
    rw [hold] at h
    dsimp only at h
    rcases write_cases fs p (updatedText old m) with
      ⟨cause, hopen, hwrite⟩ | ⟨l, mode, hopen, hwrite | ⟨room, hroom, hwrite⟩⟩
    -- What an update returns follows what writing the file does.
    all_goals
      rw [updatedText] at hwrite
      rw [hwrite] at h
      obtain ⟨rfl, he⟩ := Prod.mk.inj h
    · exact .inl ⟨rfl, .inr ⟨old, cause, rfl, hopen, (Except.error.inj he).symm⟩⟩
    · cases he
    · obtain ⟨-, hroot, hfind⟩ := of_openForWriting hopen
      refine .inr ⟨old, l, mode, room, rfl, hopen, (Except.error.inj he).symm, hroom, rfl,
        content?_of_find (hfind _), fun l' hne => ?_⟩
      rw [FileSystem.node?_put fs hroot, if_neg hne]

/-- A settings file that is not JSON is left alone. -/
theorem updateSettings_failed_malformed :
    ∃ e, updateSettings (settingsFolder (Utf8.encode "\x7b")) settingsPath .runOnly =
      (settingsFolder (Utf8.encode "\x7b"), .error e) := by
  obtain ⟨e, hfail⟩ : ∃ e, (updateSettings (settingsFolder (Utf8.encode "\x7b"))
      settingsPath .runOnly).2 = .error e := Json.exists_error_of_isOk (by decide +kernel)
  obtain ⟨e', hmalformed⟩ : ∃ e, readSettings (settingsFolder (Utf8.encode "\x7b"))
      settingsPath = .error e := Json.exists_error_of_isOk (by decide +kernel)
  rcases updateSettings_failed (Prod.ext rfl hfail) with
    ⟨hsame, -⟩ | ⟨old, l, mode, room, hold, -⟩
  · exact ⟨e, Prod.ext hsame hfail⟩
  · cases hmalformed.symm.trans hold

/-- A directory with a settings file, on a medium that takes nothing more. -/
def fullFolder (content : Text.Bytes) : FileSystem :=
  { settingsFolder content with capacity := some 0 }

/-- On a full medium, an update that fails has emptied a settings file that was there. -/
theorem updateSettings_full :
    updateSettings (fullFolder (Utf8.encode "\x7b\x7d")) settingsPath .runOnly =
      (fullFolder [], .error (.unwritable settingsPath .noSpace)) ∧
    (fullFolder (Utf8.encode "\x7b\x7d")).content? settingsPath = some (Utf8.encode "\x7b\x7d") ∧
    (fullFolder []).content? settingsPath = some [] := by
  have hdocument : Jsonc.IsDocument "\x7b\x7d".toList (.object []) := by
    refine ⟨[.openBrace, .closeBrace], .cons rfl (.cons rfl (.nil rfl)), ?_⟩
    exact .object .noMember
  have htext : (fullFolder (Utf8.encode "\x7b\x7d")).readText settingsPath = .ok "\x7b\x7d" := by
    decide +kernel
  have hold : readSettings (fullFolder (Utf8.encode "\x7b\x7d")) settingsPath = .ok (.object []) :=
    readSettings_eq htext (Jsonc.parse_eq_ok_some_iff.mpr ⟨_, hdocument, rfl⟩)
  have hwrite : (fullFolder (Utf8.encode "\x7b\x7d")).write settingsPath
      (updatedText (.object []) .runOnly) = (fullFolder [], .error .noSpace) := by decide +kernel
  refine ⟨?_, by decide +kernel, by decide +kernel⟩
  rw [updatedText] at hwrite
  simp only [updateSettings, hold, hwrite]

end SageEditor
