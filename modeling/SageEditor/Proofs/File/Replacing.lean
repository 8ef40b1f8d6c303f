/-
Replacing a file is all or nothing.

* `node?_freshName` — the name of a temporary file is free;
* `replace_cases` — a replacement fails and changes nothing, or it sets the content of its target
  and nothing else.

Design notes: as many temporary names are tried as there are nodes, and one more, so that one of
them is free.  Whatever was set under a free name leaves no trace when it is cleared, and the
temporary file stands in the way of no path, so that the target lies where it lay before.
-/
import Mathlib.Data.List.Nodup
import Mathlib.Data.List.Perm.Subperm
import SageEditor.Proofs.Decimal.Shortest
import SageEditor.Proofs.File.Rewriting

namespace SageEditor.FileSystem

open Json (bind_eq_ok)

variable {fs fs' : FileSystem} {l dir : Location} {p : Path} {content : Text.Bytes} {mode : ℕ}

/-! ### Names of temporary files -/

theorem ofDigitChars_replicate_append (k : ℕ) (ds : List Char) :
    Nat.ofDigitChars 10 (List.replicate k '0' ++ ds) 0 = Nat.ofDigitChars 10 ds 0 := by
  induction k with
  | zero => rfl
  | succ k ih =>
    rw [← ih]
    rfl

/-- Zeros in front do not change the number that a temporary name is made from. -/
theorem temporaryName_injective : Function.Injective temporaryName := by
  intro n m h
  have htext : ∀ k, (".tmp" ++ "".pushn '0' (6 - (toString k).length) ++ toString k).toList =
      ".tmp".toList ++ (List.replicate (6 - (toString k).length) '0' ++ Nat.toDigits 10 k) := by
    intro k
    simp [Shortest.toList_pushn]
  have heq := congrArg Text.Utf8.decode? h
  rw [temporaryName, temporaryName, Text.Utf8.decode?_encode, Text.Utf8.decode?_encode] at heq
  have hchars := congrArg String.toList (Option.some.inj heq)
  rw [htext, htext] at hchars
  have hnumber := congrArg (Nat.ofDigitChars 10 · 0) (List.append_cancel_left hchars)
  simpa only [ofDigitChars_replicate_append, Nat.ofDigitChars_ten_toDigits] using hnumber

theorem mem_of_node? (hl : l ≠ []) (h : (fs.node? l).isSome) : l ∈ fs.nodes.map (·.1) := by
  simp only [node?, hl, if_false, Option.isSome_map, List.find?_isSome] at h
  obtain ⟨n, hn, heq⟩ := h
  exact List.mem_map.mpr ⟨n, hn, by simpa using heq⟩

/-- Nothing has the name that is chosen for a temporary file. -/
theorem node?_freshName (fs : FileSystem) (dir : Location) :
    fs.node? (dir ++ [fs.freshName dir]) = none := by
  set free : ℕ → Bool := fun n => (fs.node? (dir ++ [temporaryName n])).isNone with hfree
  have hfound : ((List.range (fs.nodes.length + 1)).find? free).isSome := by
    by_contra hnone
    -- Otherwise there would be more locations than nodes.
    have htaken : ∀ n ∈ List.range (fs.nodes.length + 1), free n = false := by
      simpa [List.find?_isSome] using hnone
    have hsub : (List.range (fs.nodes.length + 1)).map (fun n => dir ++ [temporaryName n]) ⊆
        fs.nodes.map (·.1) := by
      intro l' hl'
      obtain ⟨n, hn, rfl⟩ := List.mem_map.mp hl'
      have hsome := htaken n hn
      rw [hfree, Option.isNone_eq_false_iff] at hsome
      exact mem_of_node? (by simp) hsome
    have hnodup : ((List.range (fs.nodes.length + 1)).map
        (fun n => dir ++ [temporaryName n])).Nodup := by
      refine List.Nodup.map (fun n m h => temporaryName_injective ?_) List.nodup_range
      exact List.singleton_inj.mp (List.append_cancel_left h)
    have hlength := (hnodup.subperm hsub).length_le
    simp at hlength
  obtain ⟨n, hn⟩ := Option.isSome_iff_exists.mp hfound
  have hnone := List.find?_some hn
  rw [freshName, hn]
  exact Option.isNone_iff_eq_none.mp hnone

theorem node?_of_temporaryIn {dir : Path} (h : fs.temporaryIn dir = .ok l) : fs.node? l = none := by
  rw [temporaryIn] at h
  obtain ⟨⟨⟩, -, h⟩ := bind_eq_ok.mp h
  obtain ⟨l', -, h⟩ := bind_eq_ok.mp h
  obtain ⟨⟨⟩, -, h⟩ := bind_eq_ok.mp h
  have h := of_demand_writing h
  obtain rfl := Except.ok.inj h
  exact node?_freshName fs l'

/-! ### Filling a file and moving it -/

/-- Filling a file sets its content, to all that it is given if that goes well. -/
theorem exists_fill_eq (fs : FileSystem) (l : Location) (mode : ℕ) (content : Text.Bytes) :
    ∃ content', (fs.fill l mode content).1 = fs.put l (.file content' mode) ∧
      ((fs.fill l mode content).2 = .ok () → content' = content) := by
  by_cases h : fs.Fits l mode content
  · rw [fill_of_fits h]
    exact ⟨content, rfl, fun _ => rfl⟩
  · obtain ⟨room, -, hfill⟩ := fill_of_not_fits h
    rw [hfill]
    exact ⟨content.take room, rfl, fun hok => by cases hok⟩

/-- A file is moved to a name in a directory, under which there is no other directory. -/
theorem of_destination (h : fs.destination p = .ok l) :
    ∃ dir name, fs.place p = .ok (.entry dir name false) ∧ l = dir ++ [name] ∧
      ∀ mode, fs.node? l ≠ some (.directory mode) := by
  rw [destination] at h
  split at h
  · cases h
  obtain ⟨place, hplace, h⟩ := bind_eq_ok.mp h
  cases place with
  | directory => cases h
  | entry dir name slash =>
    cases slash with
    | true => cases h
    | false =>
      simp only [Bool.false_eq_true, if_false] at h
      split at h
      · cases h
      · next hdirectory =>
        have h := of_demand_writing h
        obtain rfl := Except.ok.inj h
        exact ⟨dir, name, hplace, rfl, hdirectory⟩

/-! ### Replacing a file -/

theorem keptMode_of_place {name : FileName} (h : fs.place p = .ok (.entry dir name false)) :
    fs.keptMode p = ((fs.node? (dir ++ [name])).map Node.mode).getD fileMode := by
  rw [keptMode, find_of_place h]
  cases fs.node? (dir ++ [name]) <;> rfl

/-- What is no directory is written with the bits that it has. -/
theorem isTarget_of_place {name : FileName} (h : fs.place p = .ok (.entry dir name false))
    (hl : l = dir ++ [name]) (hne : ∀ mode, fs.node? l ≠ some (.directory mode)) :
    fs.IsTarget p l (((fs.node? l).map Node.mode).getD fileMode) := by
  cases hnode : fs.node? l with
  | none => exact isTarget_of_none h hl hnode
  | some n =>
    cases n with
    | directory mode => exact absurd hnode (hne mode)
    | file old mode => exact isTarget_of_file h hl hnode

/-- The bits of a file that has just been filled can be changed, or it stays as it is. -/
theorem setModeAt_put (hl : l ≠ []) (mode' : ℕ) :
    (fs.put l (.file content mode)).setModeAt l mode' =
      if fs.fixedModes then (fs.put l (.file content mode), .error .notPermitted)
      else (fs.put l (.file content mode'), .ok ()) := by
  rw [setModeAt, node?_put fs hl, if_pos rfl]
  dsimp only
  rw [put_put]
  rfl

/-- What a file is moved to when it is ready already lies where it lay before. -/
theorem of_destination_put {temporary : Location} (hfree : fs.node? temporary = none)
    (hmode : (fs.put temporary (.file content fileMode)).keptMode p = mode)
    (hdestination : (fs.put temporary (.file content mode)).destination p = .ok l) :
    fs.IsTarget p l mode ∧ l ≠ [] ∧
      (fs.put l (.file content mode)).find p = .ok (l, .file content mode) := by
  obtain ⟨dir, name, hplace, hl, hdirectory⟩ := of_destination hdestination
  have hroot := ne_nil_of_none hfree
  -- When the temporary file is cleared, the path leads where it led.
  have hcleared : (fs.put temporary (.file content mode)).Opens fs := by
    have herased : (fs.put temporary (.file content mode)).Opens
        ((fs.put temporary (.file content mode)).erase temporary) :=
      opens_erase fun mode' => by simp [node?_put fs hroot]
    rwa [erase_put_of_none hfree] at herased
  have hplace' := hcleared.place_entry hplace
  have hne : ∀ mode, fs.node? l ≠ some (.directory mode) := by
    intro mode' hat
    by_cases htemporary : l = temporary
    · simp [htemporary, hfree] at hat
    · exact hdirectory mode' (by rw [node?_put fs hroot, if_neg htemporary, hat])
  -- Under the name of the temporary file there was nothing, of which no bits are kept either.
  have hkept : mode = ((fs.node? l).map Node.mode).getD fileMode := by
    have hnone : ∀ mode', fs.node? temporary ≠ some (.directory mode') := by simp [hfree]
    have hfilled := (opens_put hnone (.file content fileMode)).place_entry hplace'
    rw [← hmode, keptMode_of_place hfilled, ← hl, node?_put fs hroot]
    by_cases htemporary : l = temporary
    · rw [if_pos htemporary, htemporary, hfree]
      rfl
    · rw [if_neg htemporary]
  exact ⟨hkept ▸ isTarget_of_place hplace' hl hne, ne_nil_of_ne_directory hne,
    find_put_of_place hplace' hl hne _⟩

/-- A replacement fails and changes nothing, or it sets the content of its target. -/
theorem replace_cases (fs : FileSystem) (p : Path) (content : Text.Bytes) :
    (∃ e, fs.replace p content = (fs, .error e)) ∨
      ∃ l mode, fs.replace p content = (fs.put l (.file content mode), .ok ()) ∧
        fs.IsTarget p l mode ∧ l ≠ [] ∧
        (fs.put l (.file content mode)).find p = .ok (l, .file content mode) := by
  rw [replace]
  cases htemporary : fs.temporaryIn (directoryOf p) with
  | error e => exact .inl ⟨_, rfl⟩
  | ok temporary =>
    have hfree := node?_of_temporaryIn htemporary
    obtain ⟨content', hfilled, hcontent⟩ := exists_fill_eq fs temporary fileMode content
    cases hfill : fs.fill temporary fileMode content with
    | mk filled outcome =>
      rw [hfill] at hfilled hcontent
      obtain rfl : filled = fs.put temporary (.file content' fileMode) := hfilled
      -- On every failure the temporary file is cleared, with whatever it has been filled.
      cases outcome with
      | error e =>
        simp only [hfill, erase_put_of_none hfree]
        exact .inl ⟨_, rfl⟩
      | ok _ =>
        obtain rfl : content' = content := hcontent rfl
        simp only [hfill, setModeAt_put (ne_nil_of_none hfree)]
        by_cases hfixed : fs.fixedModes
        · simp only [if_pos hfixed, erase_put_of_none hfree]
          exact .inl ⟨_, rfl⟩
        · simp only [if_neg hfixed, erase_put_of_none hfree]
          cases hdestination : (fs.put temporary (.file content'
              ((fs.put temporary (.file content' fileMode)).keptMode p))).destination p with
          | error e => exact .inl ⟨_, rfl⟩
          | ok l => exact .inr ⟨l, _, rfl, of_destination_put hfree rfl hdestination⟩

end SageEditor.FileSystem
