/-
What an update of a settings file keeps.

* `Meaning.withExecutor` — settings with the entry for Sage files, and else as they were;
* `meaning_setExecutor` — setting the entry in memory sets it in what is written;
* `updateSettings_keeps` — the file means what it meant before, but for the entry and for numbers
  that do not survive.

Design notes: that every other setting is kept is one equation of meanings, since an object is
what its names stand for.  A number that is not a whole one of 64 bits is rounded, and one that is
too large becomes a string with its digits; all other values are written back as they were.
-/
import Mathlib.Logic.Function.Basic
import SageEditor.Proofs.Jsonc.Meaning
import SageEditor.Proofs.Settings.Update

namespace SageEditor

open Jsonc (Meaning Tree)

/-! ### Setting members -/

namespace Jsonc.Meaning

/-- What names stand for in an object; in anything else they stand for nothing. -/
def member? : Meaning → String → Option Meaning
  | .object f => f
  | _ => fun _ => none

/-- An object with one name set, and all others as they were. -/
def set (m : Meaning) (name : String) (v : Meaning) : Meaning :=
  .object (Function.update m.member? name (some v))

/-- Settings with the entry for Sage files set in their table of commands. What is not an object
counts as an empty one. -/
def withExecutor (m : Meaning) (mode : ExecutionMode) : Meaning :=
  let table := (m.member? executorMapKey).getD .null
  m.set executorMapKey (table.set executorEntry (.string (executorCommand mode)))

/-- No other setting is changed. -/
theorem member?_withExecutor (m : Meaning) (mode : ExecutionMode) {name : String}
    (h : name ≠ executorMapKey) : (m.withExecutor mode).member? name = m.member? name :=
  Function.update_of_ne h _ _

end Jsonc.Meaning

variable {v : Json} {o : Json.Object}

/-- What a name stands for in what is written of a value. -/
theorem member?_meaning_ofJson (h : v.InOrder) (key : String) :
    (Tree.ofJson v).meaning.member? key =
      (v.membersOf.get? key).map fun w => (Tree.ofJson w).meaning := by
  cases v with
  | object ms => exact Jsonc.memberMeaning?_ofMembers h.members.1 key
  | _ => rfl

theorem meaning_membersOf (h : v.InOrder) (name : String) (m : Meaning) :
    (Tree.ofJson (.object v.membersOf)).meaning.set name m =
      (Tree.ofJson v).meaning.set name m := by
  have hmembers : (Tree.ofJson (.object v.membersOf)).meaning.member? =
      (Tree.ofJson v).meaning.member? := by
    funext key
    rw [member?_meaning_ofJson (holds_membersOf h), member?_meaning_ofJson h]
    rfl
  rw [Meaning.set, hmembers]
  rfl

theorem meaning_insert (h : (Json.object o).InOrder) {w : Json} (hw : w.InOrder) (name : String) :
    (Tree.ofJson (.object (o.insert name w))).meaning =
      (Tree.ofJson (.object o)).meaning.set name (Tree.ofJson w).meaning := by
  have hinsert : (Json.object (o.insert name w)).InOrder := h.insert hw name
  rw [Tree.ofJson, Tree.meaning, Meaning.set]
  congr 1
  funext key
  rw [Jsonc.memberMeaning?_ofMembers hinsert.members.1, Json.Object.get?_insert,
    Function.update_apply, member?_meaning_ofJson h]
  split <;> rfl

/-- Setting the entry in memory sets it in what is written. -/
theorem meaning_setExecutor (h : v.InOrder) (mode : ExecutionMode) :
    (Tree.ofJson (setExecutor v mode)).meaning = (Tree.ofJson v).meaning.withExecutor mode := by
  have hroot := holds_membersOf h
  have htable := holds_table h
  have hentry : (Tree.ofJson (.object (executorMap (v.membersOf.get? executorMapKey) mode))).meaning =
      (((Tree.ofJson v).meaning.member? executorMapKey).getD .null).set executorEntry
        (.string (executorCommand mode)) := by
    rw [executorMap, meaning_insert htable (.string _), member?_meaning_ofJson h]
    cases hget : v.membersOf.get? executorMapKey with
    | none => rfl
    | some table => exact meaning_membersOf (hroot.members.2 _ (Json.Object.mem_of_get? hget)) _ _
  have hnew : (Json.object (executorMap (v.membersOf.get? executorMapKey) mode)).InOrder :=
    htable.insert (.string _) executorEntry
  rw [setExecutor, meaning_insert hroot hnew, meaning_membersOf h, hentry]
  rfl

/-! ### Updating a file -/

/-- After an update the file means what is written back of the settings in it, with the entry. -/
theorem exists_tree_of_updateSettings {fs fs' : FileSystem} {p : Path} {mode : ExecutionMode}
    {text : String} {tree : Tree} {new : Json} (htext : fs.readText p = .ok text)
    (htree : Jsonc.IsDocument text.toList tree)
    (hupdate : updateSettings fs p mode = (fs', .ok new)) :
    ∃ text' tree', fs'.readText p = .ok text' ∧ Jsonc.IsDocument text'.toList tree' ∧
      tree'.meaning = tree.stored.meaning.withExecutor mode := by
  have hparse := Jsonc.parse_eq_ok_some_iff.mpr ⟨tree, htree, rfl⟩
  have horder := Jsonc.inOrder_value tree
  have htext' := readText_of_updateSettings htext hparse hupdate
  rw [Option.getD_some] at htext'
  refine ⟨_, _, htext', isDocument_settingsText (holds_setExecutor horder mode), ?_⟩
  rw [meaning_setExecutor horder, Jsonc.meaning_ofJson_value]

/-- **Kept settings.**  After an update the file means what is written back of the settings in
it, with the entry for Sage files; and this is what it meant before, with the entry, if its
numbers survive. -/
theorem updateSettings_keeps {fs fs' : FileSystem} {p : Path} {mode : ExecutionMode}
    {text : String} {new : Json} (htext : fs.readText p = .ok text)
    (hparse : Jsonc.parse text = .ok (some v))
    (hupdate : updateSettings fs p mode = (fs', .ok new)) :
    ∃ tree text' tree', Jsonc.IsDocument text.toList tree ∧
      fs'.readText p = .ok text' ∧ Jsonc.IsDocument text'.toList tree' ∧
      tree'.meaning = tree.stored.meaning.withExecutor mode ∧
      ((∀ n ∈ tree.numerals, Jsonc.Survives n) →
        tree'.meaning = tree.meaning.withExecutor mode) := by
  obtain ⟨tree, htree, -⟩ := Jsonc.parse_eq_ok_some_iff.mp hparse
  obtain ⟨text', tree', htext', htree', hmeaning⟩ :=
    exists_tree_of_updateSettings htext htree hupdate
  refine ⟨tree, text', tree', htree, htext', htree', hmeaning, fun hsurvive => ?_⟩
  rw [hmeaning, Jsonc.meaning_stored tree hsurvive]

theorem updateSettings_keeps_commented :
    ∃ text' tree', (updateSettings (settingsFolder (Text.Utf8.encode commentedSettings))
        settingsPath .runOnly).1.readText settingsPath = .ok text' ∧
      Jsonc.IsDocument text'.toList tree' ∧
      tree'.meaning = commentedTree.meaning.withExecutor .runOnly := by
  have hupdate := updateSettings_settingsFolder parse_commentedSettings .runOnly
  obtain ⟨tree, text', tree', htree, htext', htree', -, hmeaning⟩ :=
    updateSettings_keeps (readText_settingsFolder commentedSettings) parse_commentedSettings
      (Prod.ext rfl hupdate)
  obtain rfl := Jsonc.isDocument_unique htree isDocument_commentedSettings
  refine ⟨text', tree', htext', htree', hmeaning fun n hn => ?_⟩
  obtain rfl : n = ⟨false, ['4'], none, none⟩ := by
    simpa [commentedTree, Tree.numerals, Tree.numeralsOfMembers] using hn
  exact Jsonc.survives_of_isWholeNumeral ⟨rfl, rfl, by decide⟩

/-- A settings file with a number that is too large. -/
def hugeSettings : String := "\x7b\"m\": 1e400\x7d"

def hugeNumeral : Json.Numeral := ⟨false, ['1'], none, some ⟨false, ['4', '0', '0']⟩⟩

def hugeTree : Tree := .object [("m", .number "1e400" hugeNumeral)]

theorem isDocument_hugeSettings : Jsonc.IsDocument hugeSettings.toList hugeTree := by
  refine ⟨[.openBrace, .string "m", .colon, .number "1e400" hugeNumeral, .closeBrace], ?_, ?_⟩
  · exact .cons rfl (.cons rfl (.cons rfl (.cons rfl (.cons rfl (.nil rfl)))))
  · exact .object (.member rfl (.number _ _) .noMember false)

/-- A number that is too large is a string after the update. -/
theorem updateSettings_huge :
    (∀ tree, Jsonc.IsDocument hugeSettings.toList tree →
      tree.meaning.member? "m" = some (.number (10 ^ 400))) ∧
    ∃ text' tree', (updateSettings (settingsFolder (Text.Utf8.encode hugeSettings))
        settingsPath .runOnly).1.readText settingsPath = .ok text' ∧
      Jsonc.IsDocument text'.toList tree' ∧
      tree'.meaning.member? "m" = some (.string "1e400") := by
  have hparse := Jsonc.parse_eq_ok_some_iff.mpr ⟨_, isDocument_hugeSettings, rfl⟩
  have hupdate := updateSettings_settingsFolder hparse .runOnly
  constructor
  · intro tree htree
    obtain rfl := Jsonc.isDocument_unique htree isDocument_hugeSettings
    have hvalue : Jsonc.numeralValue hugeNumeral = 10 ^ 400 := by
      have hdigits : Nat.ofDigitChars 10 ['4', '0', '0'] 0 = 400 := rfl
      have hone : Nat.ofDigitChars 10 ['1'] 0 = 1 := rfl
      simp [Jsonc.numeralValue, hugeNumeral, hdigits, hone]
    rw [← hvalue]
    rfl
  · obtain ⟨text', tree', htext', htree', hmeaning⟩ := exists_tree_of_updateSettings
      (readText_settingsFolder hugeSettings) isDocument_hugeSettings (Prod.ext rfl hupdate)
    refine ⟨text', tree', htext', htree', ?_⟩
    rw [hmeaning, Jsonc.Meaning.member?_withExecutor _ _ (by decide)]
    have hnumber : hugeNumeral.number = .error [] := by decide +kernel
    simp [hugeTree, Tree.stored, Tree.storedMembers, Jsonc.Reading.numberValue, hnumber,
      Tree.ofJson, Tree.meaning, Jsonc.Meaning.member?, Tree.memberMeaning?]

end SageEditor
