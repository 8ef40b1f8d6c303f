/-
Where the by-product of a run lies.

* `RunRequest.removed_eq_byproduct` — a run deletes its by-product and nothing else;
* `RunRequest.byproduct_beside_iff` — the by-product lies beside the source, under the name of the
  source with `.py` behind it, exactly if the path of the source ends in that name as it is
  written; if separators or dots follow the name, the by-product is sought below the source.

Design notes: whether a path is that of a source is decided by its last step, but the by-product
is named by what is written, and the two part where the last part of a path is idle.
-/
import SageEditor.Proofs.File.Steps
import SageEditor.Proofs.Run.Effect

namespace SageEditor.RunRequest

open SageEditor.Path (dot separator)
open Text (Utf8.encode)

/-- What a by-product has behind the name of its source. -/
def suffix : Text.Bytes := Utf8.encode ".py"

theorem separator_not_mem_suffix : separator ∉ suffix := by decide +kernel

theorem two_lt_length_suffix : 2 < suffix.length := by decide +kernel

theorem of_ofFile_eq_ok {file : Path} {mode : ExecutionMode} {interpreter : String}
    {r : RunRequest} (h : ofFile file mode interpreter = .ok r) :
    file = r.file ∧ file.extension? = some sageExtension := by
  rw [ofFile] at h
  split at h
  · next hextension =>
    obtain rfl := Except.ok.inj h
    exact ⟨rfl, hextension⟩
  · cases h

/-- Only the by-product is ever deleted, and only if the request cleans. -/
theorem removed_eq_byproduct {r : RunRequest} {launch : Launcher} {fs : FileSystem}
    {output : RunOutput} {path : Path} (h : (r.execute launch fs).2 = .ok output)
    (hremoved : output.removed = some path) : r.clean = true ∧ path = r.byproduct := by
  cases hlaunch : launch fs (Utf8.encode r.interpreter) r.file.bytes with
  | error e =>
    rw [execute, hlaunch] at h
    cases h
  | ok started =>
    obtain ⟨left, outcome⟩ := started
    obtain ⟨hremoves, hpath⟩ := (ended_execute hlaunch).removed_iff.mp ⟨output, h, hremoved⟩
    exact ⟨hremoves.1.1, hpath⟩

/-! ### Beside the source or below it -/

section

variable {r : RunRequest} {name last : FileName} (hname : r.file.fileName? = some name)

include hname

/-- A path that ends in its name has the by-product beside it. -/
theorem byproduct_beside (hlast : r.file.segments.getLast? = some name) :
    r.byproduct.parent? = r.file.parent? ∧ r.byproduct.fileName? = some (name ++ suffix) ∧
      ¬ r.file.components <+: r.byproduct.components ∧
      ∃ front, r.file.components = front ++ [.normal name] ∧
        r.byproduct.components = front ++ [.normal (name ++ suffix)] := by
  obtain ⟨hparent, front, hfile, hbyproduct⟩ :=
    Path.append_of_getLast? hname hlast separator_not_mem_suffix two_lt_length_suffix
  change r.byproduct.components = front ++ [.normal (name ++ suffix)] at hbyproduct
  refine ⟨hparent, ?_, ?_, front, hfile, hbyproduct⟩
  · rw [Path.fileName?_eq_some_iff, hbyproduct, List.getLast?_concat]
  · -- Both have equally many steps, and the last ones differ in length.
    rw [hfile, hbyproduct, List.prefix_append_right_inj]
    intro hfront
    have hstep := List.singleton_inj.mp (hfront.eq_of_length rfl)
    have hlength := congrArg List.length (Path.Component.normal.inj hstep)
    have hlong := two_lt_length_suffix
    rw [List.length_append] at hlength
    omega

/-- A path that goes on after its name has the by-product below it. -/
theorem byproduct_below (hlast : r.file.segments.getLast? = some last) (hne : last ≠ name) :
    (last = [] ∨ last = [dot]) ∧
      r.byproduct.components = r.file.components ++ [.normal (last ++ suffix)] := by
  obtain ⟨hidle, hcomponents⟩ := Path.append_of_getLast?_ne hname hlast hne
    separator_not_mem_suffix two_lt_length_suffix
  refine ⟨?_, hcomponents⟩
  simpa [Path.isIdle] using hidle

end

/-- **The by-product lies beside the source exactly if the path of the source ends in its name.**
Then it has the same parent, and the name of the source with `.py` behind it, so it is neither the
source nor below it.  If the path goes on with separators or a dot after the name, what is taken
for the by-product is an entry of the source itself.  Nothing else is ever deleted by a run. -/
theorem byproduct_beside_iff {file : Path} {mode : ExecutionMode} {interpreter : String}
    {r : RunRequest} (h : ofFile file mode interpreter = .ok r) :
    ∃ name last, file.fileName? = some name ∧ file.segments.getLast? = some last ∧
      (r.byproduct.parent? = file.parent? ∧ r.byproduct.fileName? = some (name ++ suffix) ↔
        last = name) ∧
      (last = name → ¬ file.components <+: r.byproduct.components ∧
        ∃ front, file.components = front ++ [.normal name] ∧
          r.byproduct.components = front ++ [.normal (name ++ suffix)]) ∧
      (last ≠ name → (last = [] ∨ last = [dot]) ∧
        r.byproduct.components = file.components ++ [.normal (last ++ suffix)]) ∧
      ∀ launch fs output path, (r.execute launch fs).2 = .ok output →
        output.removed = some path → r.clean = true ∧ path = r.byproduct := by
  obtain ⟨rfl, hextension⟩ := of_ofFile_eq_ok h
  obtain ⟨name, hname, -⟩ := Option.bind_eq_some_iff.mp hextension
  obtain ⟨init, last, hsegments, -⟩ := Path.exists_split_append r.file.bytes List.not_mem_nil
  have hlast : r.file.segments.getLast? = some last := by
    rw [Path.segments, hsegments, List.getLast?_concat]
  refine ⟨name, last, hname, hlast, ⟨?_, ?_⟩, ?_, byproduct_below hname hlast,
    fun launch fs output path => removed_eq_byproduct⟩
  · rintro ⟨-, hbyproduct⟩
    by_contra hne
    obtain ⟨-, hcomponents⟩ := byproduct_below hname hlast hne
    rw [Path.fileName?_eq_some_iff, hcomponents, List.getLast?_concat] at hbyproduct
    exact hne (List.append_left_injective suffix
      (Path.Component.normal.inj (Option.some.inj hbyproduct)))
  · rintro rfl
    obtain ⟨hparent, hbyproduct, -⟩ := byproduct_beside hname hlast
    exact ⟨hparent, hbyproduct⟩
  · rintro rfl
    exact (byproduct_beside hname hlast).2.2

/-- A path with dots and repeated separators that ends in its name. -/
theorem byproduct_beside_iff_dotted :
    ∃ r, ofFile (.ofString ".//a/./b.c.sage") .runAndClean "sage" = .ok r ∧
      r.byproduct.parent? = some (.ofString ".//a") ∧
      r.byproduct.fileName? = some (Utf8.encode "b.c.sage.py") := by
  have hfile : ofFile (.ofString ".//a/./b.c.sage") .runAndClean "sage" =
      .ok ⟨.ofString ".//a/./b.c.sage", "sage", true⟩ := by decide +kernel
  obtain ⟨name, last, hname, hlast, hbeside, -⟩ := byproduct_beside_iff hfile
  have hname' : (Path.ofString ".//a/./b.c.sage").fileName? = some (Utf8.encode "b.c.sage") := by
    decide +kernel
  have hlast' : (Path.ofString ".//a/./b.c.sage").segments.getLast? =
      some (Utf8.encode "b.c.sage") := by decide +kernel
  obtain rfl := Option.some.inj (hname.symm.trans hname')
  obtain rfl := Option.some.inj (hlast.symm.trans hlast')
  obtain ⟨hparent, hbyproduct⟩ := hbeside.mpr rfl
  refine ⟨_, hfile, hparent.trans (by decide +kernel), hbyproduct.trans (by decide +kernel)⟩

/-- With a separator behind its name, the source has its by-product below it. -/
theorem byproduct_trailing_separator :
    ∃ r, ofFile (.ofString "a.sage/") .runAndClean "sage" = .ok r ∧
      r.byproduct = .ofString "a.sage/.py" ∧ r.byproduct.parent? = some (.ofString "a.sage") ∧
      r.file.parent? = some (.ofString "") ∧
      r.byproduct.fileName? = some (Utf8.encode ".py") :=
  ⟨⟨.ofString "a.sage/", "sage", true⟩, by decide +kernel⟩

end SageEditor.RunRequest
