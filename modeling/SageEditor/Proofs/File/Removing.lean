/-
Deleting a file.

* `of_entryToRemove` — what is deleted is a file that the path leads to, and afterwards the path
  leads to nothing;
* `not_exists_of_entryToRemove` — what is refused as missing is not there;
* `remove_cases` — deleting fails and changes nothing, or one file is gone.

Design notes: a path that leads to something always leads to a place, and something that cannot be
deleted is refused for what it is or for the permission bits, never as missing.
-/
import SageEditor.Proofs.File.Placing

namespace SageEditor.FileSystem

open Json (bind_eq_ok)

variable {fs : FileSystem} {l : Location} {p : Path}

theorem of_entryToRemove (h : fs.entryToRemove p = .ok l) :
    (∃ content mode, fs.find p = .ok (l, .file content mode)) ∧ l ≠ [] ∧
      (fs.erase l).find p = .error .notFound := by
  rw [entryToRemove] at h
  obtain ⟨place, hplace, h⟩ := bind_eq_ok.mp h
  cases place with
  | directory => cases h
  | entry dir name slash =>
    dsimp only at h
    split at h
    · cases h
    · cases h
    · next content mode hnode =>
      cases slash with
      | true => cases h
      | false =>
        have h := of_demand_writing h
        obtain rfl := Except.ok.inj h
        have hroot := ne_nil_of_file hnode
        have hne : ∀ mode, fs.node? (dir ++ [name]) ≠ some (.directory mode) := by simp [hnode]
        have hplace' := (opens_erase hne).place_entry hplace
        refine ⟨⟨content, mode, (find_eq_ok_iff_of_place hplace).mpr ⟨rfl, hnode⟩⟩, hroot, ?_⟩
        rw [find_of_place hplace', node?_erase hroot, if_pos rfl]

/-- What is refused as missing is not there. -/
theorem not_exists_of_entryToRemove (h : fs.entryToRemove p = .error .notFound) :
    fs.exists? p = false := by
  rw [exists?]
  cases hfind : fs.find p with
  | error e => rfl
  | ok found =>
    obtain ⟨l, n⟩ := found
    exfalso
    rw [entryToRemove] at h
    rcases place_of_resolve (find_eq_ok_iff.mp hfind).1 with
      ⟨l', hplace⟩ | ⟨dir, name, slash, hplace, hsome⟩
    · simp [hplace, bind, Except.bind, throw, throwThe, MonadExceptOf.throw] at h
    · obtain ⟨n', hnode⟩ := Option.isSome_iff_exists.mp hsome
      simp only [hplace, hnode, bind, Except.bind] at h
      -- What is there is refused as a directory, for what follows its name, or for the bits.
      cases n' with
      | directory => cases h
      | file content mode =>
        cases slash with
        | true => cases h
        | false =>
          cases hdir : fs.node? dir with
          | none => simp [hdir, pure, Except.pure] at h
          | some n =>
            by_cases hgrants : fs.grants .writing n = true <;>
              simp [hdir, demand, hgrants, pure, Except.pure] at h

/-- Deleting fails and changes nothing, or it deletes the file that the path leads to. -/
theorem remove_cases (fs : FileSystem) (p : Path) :
    (∃ e, fs.remove p = (fs, .error e) ∧ (e = .notFound → fs.exists? p = false)) ∨
      ∃ l, fs.remove p = (fs.erase l, .ok ()) ∧
        (∃ content mode, fs.find p = .ok (l, .file content mode)) ∧ l ≠ [] ∧
        (fs.erase l).find p = .error .notFound := by
  rw [remove]
  cases hentry : fs.entryToRemove p with
  | error e => exact .inl ⟨e, rfl, fun he => not_exists_of_entryToRemove (he ▸ hentry)⟩
  | ok l => exact .inr ⟨l, rfl, of_entryToRemove hentry⟩

theorem not_exists_of_remove (h : (fs.remove p).2 = .error .notFound) : fs.exists? p = false := by
  rcases fs.remove_cases p with ⟨e, hremove, hexists⟩ | ⟨l, hremove, -⟩
  · rw [hremove] at h
    exact hexists (Except.error.inj h)
  · rw [hremove] at h
    cases h

end SageEditor.FileSystem
