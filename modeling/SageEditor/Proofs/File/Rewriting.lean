/-
Writing a file that is there.

* `find_put`, `openForWriting_put` — other content in a file does not change where paths lead;
* `location_eq` — reading and writing through a path reach one and the same file;
* `write_cases` — what writing a file does, with enough space and without.

Design notes: only directories are entered, so that the content of files never matters to a path.
A file is written in two steps, but after both of them the first one cannot be seen any more.
-/
import SageEditor.Proofs.File.Placing
import SageEditor.Proofs.Text.Utf8

namespace SageEditor.FileSystem

open Json (bind_eq_ok)

variable {fs : FileSystem} {l : Location} {p : Path} {content content' : Text.Bytes} {mode : ℕ}

/-! ### Paths -/

section Put

variable (hfile : fs.node? l = some (.file content mode)) (content' : Text.Bytes)

include hfile

theorem enter_put (l' : Location) :
    (fs.put l (.file content' mode)).enter l' = fs.enter l' := by
  rw [enter, enter, node?_put fs (ne_nil_of_file hfile)]
  by_cases heq : l' = l
  · subst heq
    simp [hfile, Node.isDirectory]
  · rw [if_neg heq]
    rfl

theorem isNone_node?_put (l' : Location) :
    ((fs.put l (.file content' mode)).node? l').isNone = (fs.node? l').isNone := by
  rw [node?_put fs (ne_nil_of_file hfile)]
  by_cases heq : l' = l
  · subst heq
    simp [hfile]
  · rw [if_neg heq]

theorem follow_put (start : Location) (names : List FileName) :
    (fs.put l (.file content' mode)).follow start names = fs.follow start names := by
  induction names generalizing start with
  | nil => rfl
  | cons name names ih =>
    simp only [follow, enter_put hfile, isNone_node?_put hfile, ih]

theorem resolve_put (p : Path) : (fs.put l (.file content' mode)).resolve p = fs.resolve p := by
  have hstart : (fs.put l (.file content' mode)).start p = fs.start p := rfl
  rw [resolve, resolve, hstart]
  simp only [follow_put hfile]

theorem place_put (p : Path) : (fs.put l (.file content' mode)).place p = fs.place p := by
  have hstart : (fs.put l (.file content' mode)).start p = fs.start p := rfl
  rw [place, place, hstart]
  simp only [follow_put hfile, resolve_put hfile, enter_put hfile]

end Put

/-! ### Finding a file -/

/-- A file is found where it was, with its new content. -/
theorem find_put (h : fs.find p = .ok (l, .file content mode)) (content' : Text.Bytes) :
    (fs.put l (.file content' mode)).find p = .ok (l, .file content' mode) := by
  obtain ⟨hl, hnode⟩ := find_eq_ok_iff.mp h
  refine find_eq_ok_iff.mpr ⟨by rw [resolve_put hnode, hl], ?_⟩
  rw [node?_put fs (ne_nil_of_file hnode), if_pos rfl]

/-- A file that can be read is read with its new content. -/
theorem read_put (h : fs.find p = .ok (l, .file content mode)) {bytes : Text.Bytes}
    (hread : fs.read p = .ok bytes) (content' : Text.Bytes) :
    bytes = content ∧ (fs.put l (.file content' mode)).read p = .ok content' := by
  have hgrants : ∀ fs' : FileSystem, fs'.privileged = fs.privileged → ∀ c,
      fs'.demand .reading (.file c mode) = fs.demand .reading (.file content mode) := by
    intro fs' hprivileged c
    simp [demand, grants, hprivileged, Node.mode]
  rw [read, h] at hread
  obtain ⟨found, hfound, hread⟩ := bind_eq_ok.mp hread
  obtain rfl := Except.ok.inj hfound
  obtain ⟨⟨⟩, hdemand, hbytes⟩ := bind_eq_ok.mp hread
  refine ⟨(Except.ok.inj hbytes).symm, ?_⟩
  rw [read, find_put h]
  have hnew := hgrants (fs.put l (.file content' mode)) rfl content'
  rw [hdemand] at hnew
  simp [bind, Except.bind, hnew, pure, Except.pure]

theorem readText_eq_ok_iff {text : String} :
    fs.readText p = .ok text ↔
      ∃ bytes, fs.read p = .ok bytes ∧ Text.Utf8.decode? bytes = some text := by
  rw [readText, bind_eq_ok]
  refine exists_congr fun bytes => and_congr_right fun _ => ?_
  cases Text.Utf8.decode? bytes <;> simp [pure, Except.pure, throw, throwThe, MonadExceptOf.throw]

theorem exists_find_of_read {bytes : Text.Bytes} (h : fs.read p = .ok bytes) :
    ∃ l mode, fs.find p = .ok (l, .file bytes mode) := by
  rw [read] at h
  obtain ⟨⟨l, n⟩, hfind, h⟩ := bind_eq_ok.mp h
  obtain ⟨⟨⟩, -, h⟩ := bind_eq_ok.mp h
  cases n with
  | directory => cases h
  | file content mode =>
    obtain rfl := Except.ok.inj h
    exact ⟨l, mode, hfind⟩

theorem exists_find_of_readText {text : String} (h : fs.readText p = .ok text) :
    ∃ bytes l mode, fs.read p = .ok bytes ∧ fs.find p = .ok (l, .file bytes mode) := by
  obtain ⟨bytes, hread, -⟩ := readText_eq_ok_iff.mp h
  obtain ⟨l, mode, hfind⟩ := exists_find_of_read hread
  exact ⟨bytes, l, mode, hread, hfind⟩

/-- A file that can be read is read as the text that it is given. -/
theorem readText_put (h : fs.find p = .ok (l, .file content mode)) {bytes : Text.Bytes}
    (hread : fs.read p = .ok bytes) (text : String) :
    (fs.put l (.file (Text.Utf8.encode text) mode)).readText p = .ok text :=
  readText_eq_ok_iff.mpr ⟨_, (read_put h hread _).2, Text.Utf8.decode?_encode text⟩

/-! ### Opening a file -/

/-- What is opened for writing is the target of the path, and found there with new content. -/
theorem of_openForWriting (h : fs.openForWriting p = .ok (l, mode)) :
    fs.IsTarget p l mode ∧ l ≠ [] ∧
      ∀ content, (fs.put l (.file content mode)).find p = .ok (l, .file content mode) := by
  rw [openForWriting] at h
  obtain ⟨place, hplace, h⟩ := bind_eq_ok.mp h
  cases place with
  | directory => cases h
  | entry dir name slash =>
    cases slash with
    | true => cases h
    | false =>
      simp only [Bool.false_eq_true, if_false] at h
      split at h
      · cases h
      · next old mode' hnode =>
        obtain ⟨⟨⟩, -, h⟩ := bind_eq_ok.mp h
        obtain ⟨rfl, rfl⟩ := Prod.mk.inj (Except.ok.inj h)
        exact ⟨isTarget_of_file hplace rfl hnode, ne_nil_of_file hnode, fun content =>
          find_put_of_place hplace rfl (by simp [hnode]) _⟩
      · next hnone =>
        have h := of_demand_writing h
        obtain ⟨rfl, rfl⟩ := Prod.mk.inj (Except.ok.inj h)
        exact ⟨isTarget_of_none hplace rfl hnone, ne_nil_of_none hnone, fun content =>
          find_put_of_place hplace rfl (by simp [hnone]) _⟩

/-- What is found through a path and what it is opened as for writing are the same. -/
theorem location_eq (h : fs.find p = .ok (l, .file content mode)) {l' : Location} {mode' : ℕ}
    (hopen : fs.openForWriting p = .ok (l', mode')) : l' = l ∧ mode' = mode := by
  rcases (of_openForWriting hopen).1 with ⟨old, hold⟩ | ⟨hmissing, -⟩
  · obtain ⟨hl, hnode⟩ := Prod.mk.inj (Except.ok.inj (hold.symm.trans h))
    exact ⟨hl, (Node.file.inj hnode).2⟩
  · cases hmissing.symm.trans h

theorem openForWriting_put (hnode : fs.node? l = some (.file content mode))
    (hopen : fs.openForWriting p = .ok (l, mode)) (content' : Text.Bytes) :
    (fs.put l (.file content' mode)).openForWriting p = .ok (l, mode) := by
  have hnew : (fs.put l (.file content' mode)).node? l = some (.file content' mode) := by
    rw [node?_put fs (ne_nil_of_file hnode), if_pos rfl]
  rw [openForWriting] at hopen ⊢
  rw [place_put hnode]
  obtain ⟨place, hplace, hopen⟩ := bind_eq_ok.mp hopen
  cases place with
  | directory => cases hopen
  | entry dir name slash =>
    cases slash with
    | true => cases hopen
    | false =>
      simp only [Bool.false_eq_true, if_false] at hopen
      split at hopen
      · cases hopen
      · next content'' mode'' hat =>
        obtain ⟨⟨⟩, hdemand, hopen⟩ := bind_eq_ok.mp hopen
        obtain ⟨hl, rfl⟩ := Prod.mk.inj (Except.ok.inj hopen)
        have hgrants : (fs.put l (.file content' mode'')).demand .writing (.file content' mode'') =
            fs.demand .writing (.file content'' mode'') := rfl
        simp [hplace, bind, Except.bind, hl, hnew, hgrants, hdemand, pure, Except.pure]
      · next hnone =>
        -- The file is there, so it is not created.
        have hcreated := of_demand_writing hopen
        rw [(Prod.mk.inj (Except.ok.inj hcreated)).1, hnode] at hnone
        cases hnone

/-! ### Writing a file -/

/-- There is space for the content of a file. -/
def Fits (fs : FileSystem) (l : Location) (mode : ℕ) (content : Text.Bytes) : Prop :=
  ∀ limit, fs.capacity = some limit →
    content.length ≤ limit - (fs.put l (.file [] mode)).used

theorem fits_of_unlimited (h : fs.capacity = none) : fs.Fits l mode content := by
  intro limit hlimit
  simp [h] at hlimit

theorem fits_put (n : Node) :
    (fs.put l n).Fits l mode content ↔ fs.Fits l mode content := by
  rw [Fits, Fits, put_put]
  rfl

theorem fill_of_fits (h : fs.Fits l mode content) :
    fs.fill l mode content = (fs.put l (.file content mode), .ok ()) := by
  rw [fill, put_put]
  cases hcapacity : fs.capacity with
  | none => rfl
  | some limit =>
    dsimp only
    rw [if_pos (h limit hcapacity)]

/-- Without enough space the file keeps the beginning of the content that it was given. -/
theorem fill_of_not_fits (h : ¬ fs.Fits l mode content) :
    ∃ room, room < content.length ∧
      fs.fill l mode content = (fs.put l (.file (content.take room) mode), .error .noSpace) := by
  rw [fill]
  cases hcapacity : fs.capacity with
  | none => exact absurd (fun limit hlimit => by simp [hcapacity] at hlimit) h
  | some limit =>
    have hlong : ¬ content.length ≤ limit - (fs.put l (.file [] mode)).used := by
      intro hle
      refine h fun limit' hlimit => ?_
      obtain rfl : limit = limit' := by simpa [hcapacity] using hlimit
      exact hle
    refine ⟨_, not_le.mp hlong, ?_⟩
    dsimp only
    rw [if_neg hlong, put_put]

/-- A file that cannot be opened stays as it is.  One that can be opened gets the content, or the
beginning of it for which there is space. -/
theorem write_cases (fs : FileSystem) (p : Path) (content : Text.Bytes) :
    (∃ e, fs.openForWriting p = .error e ∧ fs.write p content = (fs, .error e)) ∨
      ∃ l mode, fs.openForWriting p = .ok (l, mode) ∧
        (fs.write p content = (fs.put l (.file content mode), .ok ()) ∨
          ∃ room, room < content.length ∧
            fs.write p content = (fs.put l (.file (content.take room) mode), .error .noSpace)) := by
  rw [write]
  cases hopen : fs.openForWriting p with
  | error e => exact .inl ⟨e, rfl, rfl⟩
  | ok target =>
    obtain ⟨l, mode⟩ := target
    refine .inr ⟨l, mode, rfl, ?_⟩
    by_cases hfits : fs.Fits l mode content
    · exact .inl (fill_of_fits hfits)
    · exact .inr (fill_of_not_fits hfits)

/-- The content of the file that a path leads to, if it leads to a file. -/
def content? (fs : FileSystem) (p : Path) : Option Text.Bytes :=
  match fs.find p with
  | .ok (_, .file content _) => some content
  | _ => none

theorem content?_of_find (h : fs.find p = .ok (l, .file content mode)) :
    fs.content? p = some content := by
  rw [content?, h]

end SageEditor.FileSystem
