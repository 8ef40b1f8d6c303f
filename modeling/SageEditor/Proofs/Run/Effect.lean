/-
What a run does to the files.

* `Ended` — how a run ends after its program has: nothing more happens, or the by-product is
  deleted, or it cannot be deleted;
* `ended_execute` — every run whose program starts ends in one of these ways;
* `execute_effect` — which files, result and error belong together.

Design notes: the program may have done anything to the files, so that the by-product is sought
among what it left.  Each way in which a run ends has its files and its result, from which all
that is said of either is read off.
-/
import SageEditor.Proofs.File.Removing
import SageEditor.Run.Request

namespace SageEditor.RunRequest

open Text (Utf8.encode)

variable {r : RunRequest} {launch : Launcher} {fs left : FileSystem} {outcome : Outcome}

/-- What a run gives when its program has ended. -/
def outputOf (outcome : Outcome) (removed : Option Path) : RunOutput :=
  ⟨outcome.success, outcome.code, Text.Utf8.decodeLossy outcome.stdout,
    Text.Utf8.decodeLossy outcome.stderr, removed⟩

/-- The by-product is to be deleted: the request cleans and the program has succeeded. -/
def Cleans (r : RunRequest) (outcome : Outcome) : Prop :=
  r.clean = true ∧ outcome.success = true

/-- The by-product is to be deleted and can be. -/
def Removes (r : RunRequest) (left : FileSystem) (outcome : Outcome) : Prop :=
  r.Cleans outcome ∧ (left.remove r.byproduct).2 = .ok ()

/-- How a run ends whose program has left these files. -/
inductive Ended (r : RunRequest) (left : FileSystem) (outcome : Outcome) :
    FileSystem → Except RunError RunOutput → Prop
  | kept (h : r.Cleans outcome → left.remove r.byproduct = (left, .error .notFound)) :
      Ended r left outcome left (.ok (outputOf outcome none))
  | removed {l : Location} (h : r.Cleans outcome)
      (hremove : left.remove r.byproduct = (left.erase l, .ok ())) :
      Ended r left outcome (left.erase l) (.ok (outputOf outcome (some r.byproduct)))
  | stuck {e : FileError} (h : r.Cleans outcome)
      (hremove : left.remove r.byproduct = (left, .error e)) (he : e ≠ .notFound) :
      Ended r left outcome left (.error (.cleanup r.byproduct e))

theorem cleanUp_of_error {e : FileError} (hremove : left.remove r.byproduct = (left, .error e))
    (he : e ≠ .notFound) : r.cleanUp left = (left, .error (.cleanup r.byproduct e)) := by
  rw [cleanUp, hremove]
  split
  · next h => cases (Prod.mk.inj h).2
  · next h => exact absurd (Except.error.inj (Prod.mk.inj h).2) he
  · next h =>
    obtain ⟨rfl, he'⟩ := Prod.mk.inj h
    rw [Except.error.inj he']

theorem ended_execute
    (hlaunch : launch fs (Utf8.encode r.interpreter) r.file.bytes = .ok (left, outcome)) :
    Ended r left outcome (r.execute launch fs).1 (r.execute launch fs).2 := by
  rw [execute, hlaunch]
  dsimp only
  by_cases hcleans : (r.clean && outcome.success) = true
  · have hdue : r.Cleans outcome := by simpa [Cleans] using hcleans
    rw [if_pos hcleans]
    rcases left.remove_cases r.byproduct with ⟨e, hremove, -⟩ | ⟨l, hremove, -⟩
    · -- Only the by-product's absence is no failure.
      by_cases he : e = .notFound
      · subst he
        rw [cleanUp, hremove]
        exact .kept fun _ => hremove
      · rw [cleanUp_of_error hremove he]
        exact .stuck hdue hremove he
    · rw [cleanUp, hremove]
      exact .removed hdue hremove
  · rw [if_neg hcleans]
    exact .kept fun hdue => absurd (by simpa [Cleans] using hdue) hcleans

theorem execute_eq_spawn_iff {fs' : FileSystem} {interpreter : String} {e : FileError} :
    r.execute launch fs = (fs', .error (.spawn interpreter e)) ↔
      launch fs (Utf8.encode r.interpreter) r.file.bytes = .error e ∧
        interpreter = r.interpreter ∧ fs' = fs := by
  cases hlaunch : launch fs (Utf8.encode r.interpreter) r.file.bytes with
  | error cause =>
    have hexecute : r.execute launch fs = (fs, .error (.spawn r.interpreter cause)) := by
      rw [execute, hlaunch]
    rw [hexecute]
    simp only [Prod.mk.injEq, Except.error.injEq, RunError.spawn.injEq]
    tauto
  | ok started =>
    obtain ⟨left, outcome⟩ := started
    have hended := ended_execute hlaunch
    constructor
    · intro h
      rw [h] at hended
      cases hended
    · rintro ⟨h, -⟩
      cases h

namespace Ended

variable {fs' : FileSystem} {result : Except RunError RunOutput} {e : FileError} {path : Path}

theorem not_removes_of_error (h : left.remove r.byproduct = (left, .error e)) :
    ¬ r.Removes left outcome := by
  rintro ⟨-, hremove⟩
  rw [h] at hremove
  cases hremove

theorem not_removes_of_kept
    (h : r.Cleans outcome → left.remove r.byproduct = (left, .error .notFound)) :
    ¬ r.Removes left outcome :=
  fun hremoves => not_removes_of_error (h hremoves.1) hremoves

/-- The files differ from what the program left in the by-product alone, if at all. -/
theorem files_of_removes (h : Ended r left outcome fs' result) (hremoves : r.Removes left outcome) :
    ∃ l content mode, left.find r.byproduct = .ok (l, .file content mode) ∧ fs' = left.erase l ∧
      fs'.find r.byproduct = .error .notFound ∧ ∀ l', l' ≠ l → fs'.node? l' = left.node? l' := by
  cases h with
  | kept hkept => exact absurd hremoves (not_removes_of_kept hkept)
  | stuck _ hremove _ => exact absurd hremoves (not_removes_of_error hremove)
  | @removed l _ hremove =>
    rcases left.remove_cases r.byproduct with
      ⟨e, hfail, -⟩ | ⟨l', hremove', ⟨content, mode, hfind⟩, hroot, hgone⟩
    · cases (Prod.mk.inj (hremove.symm.trans hfail)).2
    · rw [(Prod.mk.inj (hremove.symm.trans hremove')).1]
      refine ⟨l', content, mode, hfind, rfl, hgone, fun l'' hne => ?_⟩
      rw [FileSystem.node?_erase hroot, if_neg hne]

theorem files_of_not_removes (h : Ended r left outcome fs' result)
    (hremoves : ¬ r.Removes left outcome) : fs' = left := by
  cases h with
  | kept => rfl
  | removed hcleans hremove => exact absurd ⟨hcleans, by rw [hremove]⟩ hremoves
  | stuck => rfl

theorem removed_iff (h : Ended r left outcome fs' result) :
    (∃ o, result = .ok o ∧ o.removed = some path) ↔
      r.Removes left outcome ∧ path = r.byproduct := by
  cases h with
  | kept hkept => simp [outputOf, not_removes_of_kept hkept]
  | removed hcleans hremove =>
    have hremoves : r.Removes left outcome := ⟨hcleans, by rw [hremove]⟩
    simp [outputOf, hremoves, eq_comm]
  | stuck _ hremove _ => simp [not_removes_of_error hremove]

theorem cleanup_iff (h : Ended r left outcome fs' result) :
    result = .error (.cleanup path e) ↔ r.Cleans outcome ∧
      (left.remove r.byproduct).2 = .error e ∧ e ≠ .notFound ∧ path = r.byproduct := by
  cases h with
  | kept hkept =>
    refine iff_of_false nofun ?_
    rintro ⟨hcleans, hremove, he, -⟩
    rw [hkept hcleans] at hremove
    exact he (Except.error.inj hremove).symm
  | removed hcleans hremove =>
    refine iff_of_false nofun ?_
    rintro ⟨-, hfail, -⟩
    rw [hremove] at hfail
    cases hfail
  | stuck hcleans hremove he =>
    rw [hremove]
    constructor
    · intro heq
      obtain ⟨hpath, rfl⟩ := RunError.cleanup.inj (Except.error.inj heq)
      exact ⟨hcleans, rfl, he, hpath.symm⟩
    · rintro ⟨-, hfail, -, rfl⟩
      rw [Except.error.inj hfail]

theorem output_eq {o : RunOutput} (h : Ended r left outcome fs' (.ok o)) :
    o = outputOf outcome o.removed := by
  cases h <;> rfl

theorem of_not_success (h : Ended r left outcome fs' result) (hfailed : outcome.success = false) :
    fs' = left ∧ result = .ok (outputOf outcome none) := by
  cases h with
  | kept => exact ⟨rfl, rfl⟩
  | removed hcleans _ => exact absurd (hfailed.symm.trans hcleans.2) Bool.false_ne_true
  | stuck hcleans _ _ => exact absurd (hfailed.symm.trans hcleans.2) Bool.false_ne_true

end Ended

/-- **A run touches nothing but its by-product, and only when it may.**  It fails to start exactly
if its program does, and then nothing has changed.  Otherwise the files are what the program left,
but for the by-product, which is gone exactly if the request cleans, the program has succeeded and
the by-product could be deleted, and exactly then it is given as removed.  The clean-up fails
exactly if the by-product was to be deleted and could not be for another reason than that it is
not there.  A run without success is no error and removes nothing. -/
theorem execute_effect (r : RunRequest) (launch : Launcher) (fs : FileSystem) :
    (∀ fs' interpreter e, r.execute launch fs = (fs', .error (.spawn interpreter e)) ↔
      launch fs (Utf8.encode r.interpreter) r.file.bytes = .error e ∧
        interpreter = r.interpreter ∧ fs' = fs) ∧
    ∀ left outcome, launch fs (Utf8.encode r.interpreter) r.file.bytes = .ok (left, outcome) →
      ∀ fs' result, r.execute launch fs = (fs', result) →
        (r.Removes left outcome → ∃ l content mode,
          left.find r.byproduct = .ok (l, .file content mode) ∧ fs' = left.erase l ∧
          fs'.find r.byproduct = .error .notFound ∧ ∀ l', l' ≠ l → fs'.node? l' = left.node? l') ∧
        (¬ r.Removes left outcome → fs' = left) ∧
        (∀ path, (∃ o, result = .ok o ∧ o.removed = some path) ↔
          r.Removes left outcome ∧ path = r.byproduct) ∧
        (∀ path e, result = .error (.cleanup path e) ↔ r.Cleans outcome ∧
          (left.remove r.byproduct).2 = .error e ∧ e ≠ .notFound ∧ path = r.byproduct) ∧
        ((left.remove r.byproduct).2 = .error .notFound → left.exists? r.byproduct = false) ∧
        (∀ o, result = .ok o → o = outputOf outcome o.removed) ∧
        (outcome.success = false → fs' = left ∧ result = .ok (outputOf outcome none)) := by
  refine ⟨fun fs' interpreter e => execute_eq_spawn_iff, fun left outcome hlaunch fs' result h => ?_⟩
  have hended := ended_execute hlaunch
  rw [h] at hended
  dsimp only at hended
  refine ⟨hended.files_of_removes, hended.files_of_not_removes, fun path => hended.removed_iff,
    fun path e => hended.cleanup_iff, FileSystem.not_exists_of_remove, ?_,
    hended.of_not_success⟩
  rintro o rfl
  exact hended.output_eq

/-- A program that leaves a by-product beside the file and succeeds. -/
def preparse : Launcher := fun fs _ argument =>
  .ok (fs.put [argument ++ Utf8.encode ".py"] (.file [] 0o644), ⟨some 0, [], []⟩)

/-- A directory with nothing in it. -/
def emptyFolder : FileSystem :=
  { nodes := [], current := [], capacity := none, privileged := false }

/-- A clean run with it deletes the by-product and says so. -/
theorem execute_effect_preparse :
    ∃ fs' o, execute ⟨.ofString "a.sage", "sage", true⟩ preparse emptyFolder = (fs', .ok o) ∧
      o.removed = some (.ofString "a.sage.py") ∧
      fs'.find (.ofString "a.sage.py") = .error .notFound := by
  obtain ⟨-, hrun⟩ := execute_effect ⟨.ofString "a.sage", "sage", true⟩ preparse emptyFolder
  obtain ⟨hfiles, -, hremoved, -⟩ := hrun _ _ rfl _ _ rfl
  have hremoves : Removes ⟨.ofString "a.sage", "sage", true⟩
      (emptyFolder.put [(Path.ofString "a.sage").bytes ++ Utf8.encode ".py"] (.file [] 0o644))
      ⟨some 0, [], []⟩ := ⟨⟨rfl, rfl⟩, by decide +kernel⟩
  have hbyproduct : byproduct ⟨.ofString "a.sage", "sage", true⟩ = .ofString "a.sage.py" := by
    decide +kernel
  obtain ⟨o, ho, hpath⟩ := (hremoved _).mpr ⟨hremoves, rfl⟩
  obtain ⟨l, content, mode, -, -, hgone, -⟩ := hfiles hremoves
  exact ⟨_, o, Prod.ext rfl ho, hbyproduct ▸ hpath, hbyproduct ▸ hgone⟩

end SageEditor.RunRequest
