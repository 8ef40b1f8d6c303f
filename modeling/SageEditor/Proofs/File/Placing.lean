/-
Where paths lead when files come and go.

* `node?_put`, `node?_erase` — what a location holds after a change;
* `Opens` — every directory that can be entered in one file system can be entered in another;
* `place_entry_iff`, `Opens.place_entry` — what it means that a path leads to a name in a directory;
* `find_eq_ok_iff_of_place` — a path that leads to a name finds what has the name;
* `IsTarget` — the file that a path leads to for writing, and the permission bits that it has then.

Design notes: a path goes through directories only, and each of them is entered on the way.  So a
file that comes or goes changes nothing for a path whose directories can all be entered, even
where the path ends in the name of that file.
-/
import SageEditor.File.System
import SageEditor.Proofs.Json.Grammar

namespace SageEditor.FileSystem

open Json (bind_eq_ok)

variable {fs fs' : FileSystem} {l dir : Location} {p : Path} {name : FileName} {slash : Bool}

/-! ### Nodes -/

theorem find?_erase {l' : Location} (h : l' ≠ l) :
    (fs.erase l).nodes.find? (·.1 = l') = fs.nodes.find? (·.1 = l') := by
  rw [erase, List.find?_filter]
  congr 1
  funext m
  by_cases hm : m.1 = l' <;> simp [hm, h]

theorem node?_put (fs : FileSystem) (hl : l ≠ []) (n : Node) (l' : Location) :
    (fs.put l n).node? l' = if l' = l then some n else fs.node? l' := by
  by_cases hroot : l' = []
  · subst hroot
    simp [node?, hl.symm]
  · by_cases heq : l' = l
    · subst heq
      simp [node?, put, hroot]
    · have hfirst : ¬ l = l' := fun h => heq h.symm
      simp only [node?, hroot, if_false, put, List.find?_cons, hfirst, decide_false,
        find?_erase heq, heq]

theorem node?_erase (hl : l ≠ []) (l' : Location) :
    (fs.erase l).node? l' = if l' = l then none else fs.node? l' := by
  by_cases hroot : l' = []
  · subst hroot
    simp [node?, hl.symm]
  · by_cases heq : l' = l
    · subst heq
      simp [node?, hroot, erase]
    · simp only [node?, hroot, if_false, find?_erase heq, heq]

/-- Only the last setting of a location counts. -/
theorem put_put (fs : FileSystem) (l : Location) (n n' : Node) :
    (fs.put l n).put l n' = fs.put l n' := by
  simp [put, erase, List.filter_filter]

theorem erase_put (fs : FileSystem) (l : Location) (n : Node) :
    (fs.put l n).erase l = fs.erase l := by
  simp [put, erase, List.filter_filter]

/-- The root holds a directory, so that what holds nothing or a file is not the root. -/
theorem ne_nil_of_ne_directory (h : ∀ mode, fs.node? l ≠ some (.directory mode)) : l ≠ [] := by
  rintro rfl
  exact h directoryMode rfl

theorem ne_nil_of_none (h : fs.node? l = none) : l ≠ [] := by
  rintro rfl
  simp [node?] at h

theorem ne_nil_of_file {content : Text.Bytes} {mode : ℕ}
    (h : fs.node? l = some (.file content mode)) : l ≠ [] := by
  rintro rfl
  simp [node?] at h

/-- What is set where nothing was and then cleared leaves no trace. -/
theorem erase_put_of_none (h : fs.node? l = none) (n : Node) : (fs.put l n).erase l = fs := by
  have hroot := ne_nil_of_none h
  have hnone : fs.nodes.filter (·.1 ≠ l) = fs.nodes := by
    rw [List.filter_eq_self]
    simpa [node?, hroot] using h
  rw [erase_put, erase, hnone]

/-- What is done in a directory if its permission bits allow it is done. -/
theorem of_demand_writing {α : Type} {n? : Option Node} {act : Except FileError α} {a : α}
    (h : (match n? with
      | some n => fs.demand .writing n >>= fun _ => act
      | _ => act) = .ok a) : act = .ok a := by
  cases n? with
  | none => exact h
  | some n => exact (bind_eq_ok.mp h).choose_spec.2

/-! ### Directories that can be entered -/

theorem enter_eq_ok_iff :
    fs.enter l = .ok () ↔ ∃ mode, fs.node? l = some (.directory mode) ∧
      fs.demand .entering (.directory mode) = .ok () := by
  rw [enter]
  cases hnode : fs.node? l with
  | none => simp
  | some n => cases n <;> simp [Node.isDirectory]

/-- Every directory that can be entered in one file system can be entered in the other, and both
have the same current directory. -/
structure Opens (fs fs' : FileSystem) : Prop where
  current : fs'.current = fs.current
  enter : ∀ l, fs.enter l = .ok () → fs'.enter l = .ok ()

/-- Where there is no directory, anything may change. -/
theorem opens_of_ne_directory (hl : ∀ mode, fs.node? l ≠ some (.directory mode))
    (hcurrent : fs'.current = fs.current) (hprivileged : fs'.privileged = fs.privileged)
    (hrest : ∀ l', l' ≠ l → fs'.node? l' = fs.node? l') : fs.Opens fs' := by
  refine ⟨hcurrent, fun l' henter => ?_⟩
  obtain ⟨mode, hnode, hdemand⟩ := enter_eq_ok_iff.mp henter
  have hne : l' ≠ l := by
    rintro rfl
    exact hl mode hnode
  refine enter_eq_ok_iff.mpr ⟨mode, by rw [hrest l' hne, hnode], ?_⟩
  rw [← hdemand, demand, demand, grants, grants, hprivileged]

theorem opens_put (hl : ∀ mode, fs.node? l ≠ some (.directory mode)) (n : Node) :
    fs.Opens (fs.put l n) := by
  refine opens_of_ne_directory hl rfl rfl fun l' hne => ?_
  rw [node?_put fs (ne_nil_of_ne_directory hl), if_neg hne]

theorem opens_erase (hl : ∀ mode, fs.node? l ≠ some (.directory mode)) :
    fs.Opens (fs.erase l) := by
  refine opens_of_ne_directory hl rfl rfl fun l' hne => ?_
  rw [node?_erase (ne_nil_of_ne_directory hl), if_neg hne]

/-- The directory that leads to one that can be entered can be entered itself. -/
theorem enter_of_follow {names : List FileName} (h : fs.follow l names = .ok dir)
    (henter : fs.enter dir = .ok ()) : fs.enter l = .ok () := by
  cases names with
  | nil =>
    obtain rfl := Except.ok.inj h
    exact henter
  | cons name names =>
    obtain ⟨⟨⟩, hl, -⟩ := bind_eq_ok.mp h
    exact hl

theorem Opens.follow (h : fs.Opens fs') {names : List FileName} (hdir : fs.follow l names = .ok dir)
    (henter : fs.enter dir = .ok ()) : fs'.follow l names = .ok dir := by
  induction names generalizing l with
  | nil => exact hdir
  | cons name names ih =>
    have hl := h.enter l (enter_of_follow hdir henter)
    obtain ⟨⟨⟩, -, hrest⟩ := bind_eq_ok.mp hdir
    rw [FileSystem.follow, hl]
    simp only [bind, Except.bind]
    split at hrest
    · next hidle => rw [if_pos hidle, ih hrest]
    · next hidle =>
      rw [if_neg hidle]
      split at hrest
      · next hparent => rw [if_pos hparent, ih hrest]
      · next hparent =>
        rw [if_neg hparent]
        split at hrest
        · cases hrest
        · next hlong =>
          rw [if_neg hlong]
          split at hrest
          · cases hrest
          · -- What lies on the way is a directory in both.
            obtain ⟨mode, hnode, -⟩ := enter_eq_ok_iff.mp
              (h.enter _ (enter_of_follow hrest henter))
            rw [hnode, ih hrest]
            rfl

/-! ### Places -/

/-- The parts of a path that are not all empty end in a name and empty parts. -/
theorem exists_last_name (parts : List FileName) (h : ¬ ∀ part ∈ parts, part = []) :
    ∃ names name empties, parts = names ++ name :: empties ∧ name ≠ [] ∧
      ∀ part ∈ empties, part = [] := by
  induction parts using List.reverseRecOn with
  | nil => simp at h
  | append_singleton parts last ih =>
    by_cases hlast : last = []
    · subst hlast
      have hparts : ¬ ∀ part ∈ parts, part = [] := by
        intro hall
        refine h fun part hpart => ?_
        rcases List.mem_append.mp hpart with hpart | hpart
        · exact hall part hpart
        · exact List.mem_singleton.mp hpart
      obtain ⟨names, name, empties, rfl, hname, hempties⟩ := ih hparts
      refine ⟨names, name, empties ++ [[]], by simp, hname, fun part hpart => ?_⟩
      rcases List.mem_append.mp hpart with hpart | hpart
      · exact hempties part hpart
      · exact List.mem_singleton.mp hpart
    · exact ⟨parts, last, [], rfl, hlast, by simp⟩

/-- Where a path leads, by the last of its parts that is not empty. -/
theorem place_of_segments {names empties : List FileName}
    (hsegments : p.segments = names ++ name :: empties) (hempties : ∀ part ∈ empties, part = [])
    (hname : name ≠ []) :
    fs.place p = do
      check p
      if name = [Path.dot] || name = [Path.dot, Path.dot] then
        return .directory (← fs.resolve p)
      else
        let dir ← fs.follow (fs.start p) names
        fs.enter dir
        if maxName < name.length then throw .nameTooLong
        return .entry dir name (!empties.isEmpty) := by
  have hdrop : (p.segments.reverse.dropWhile List.isEmpty).reverse = names ++ [name] := by
    have hall : ∀ part ∈ empties.reverse, part.isEmpty = true := by
      intro part hpart
      rw [hempties part (List.mem_reverse.mp hpart)]
      rfl
    have hstop : name.isEmpty = false := by simpa using hname
    rw [hsegments, List.reverse_append, List.reverse_cons, List.append_assoc,
      List.dropWhile_append_of_pos hall]
    simp [hstop]
  have hslash : decide ((names ++ [name]).length < p.segments.length) = !empties.isEmpty := by
    rw [hsegments]
    cases empties <;> simp
  rw [place]
  simp only [hdrop, hslash, List.getLast?_concat, List.dropLast_concat]

theorem place_of_empty (h : ∀ part ∈ p.segments, part = []) :
    fs.place p = do
      check p
      return .directory [] := by
  have hdrop : p.segments.reverse.dropWhile List.isEmpty = [] := by
    rw [List.dropWhile_eq_nil_iff]
    intro part hpart
    rw [h part (List.mem_reverse.mp hpart)]
    rfl
  rw [place]
  simp only [hdrop, List.reverse_nil, List.getLast?_nil]

/-- A path leads to a name in a directory if all before the name leads to the directory, which can
be entered. -/
theorem place_entry_iff :
    fs.place p = .ok (.entry dir name slash) ↔ check p = .ok () ∧
      ∃ names empties, p.segments = names ++ name :: empties ∧ (∀ part ∈ empties, part = []) ∧
        Path.isIdle name = false ∧ name ≠ [Path.dot, Path.dot] ∧ name.length ≤ maxName ∧
        fs.follow (fs.start p) names = .ok dir ∧ fs.enter dir = .ok () ∧
        slash = !empties.isEmpty := by
  constructor
  · intro h
    -- A path of empty parts leads to the root, which is no name in a directory.
    by_cases hall : ∀ part ∈ p.segments, part = []
    · rw [place_of_empty hall] at h
      obtain ⟨⟨⟩, -, h⟩ := bind_eq_ok.mp h
      cases h
    · obtain ⟨names, last, empties, hsegments, hlast, hempties⟩ := exists_last_name _ hall
      rw [place_of_segments hsegments hempties hlast] at h
      obtain ⟨⟨⟩, hcheck, h⟩ := bind_eq_ok.mp h
      split at h
      · obtain ⟨l, -, h⟩ := bind_eq_ok.mp h
        cases h
      · next hdots =>
        obtain ⟨dir', hdir, h⟩ := bind_eq_ok.mp h
        obtain ⟨⟨⟩, henter, h⟩ := bind_eq_ok.mp h
        split at h
        · cases h
        · next hlong =>
          obtain ⟨rfl, rfl, rfl⟩ := Place.entry.inj (Except.ok.inj h)
          simp only [Bool.or_eq_true, decide_eq_true_eq, not_or] at hdots
          exact ⟨hcheck, names, empties, hsegments, hempties, by simp [Path.isIdle, hlast, hdots.1],
            hdots.2, not_lt.mp hlong, hdir, henter, rfl⟩
  · rintro ⟨hcheck, names, empties, hsegments, hempties, hidle, hdots, hlong, hdir, henter, rfl⟩
    obtain ⟨hname, hdot⟩ : name ≠ [] ∧ name ≠ [Path.dot] := by
      simpa [Path.isIdle] using hidle
    rw [place_of_segments hsegments hempties hname, hcheck]
    simp [bind, Except.bind, hdot, hdots, hdir, henter, hlong, pure, Except.pure]

/-- A name in a directory stays where it is. -/
theorem Opens.place_entry (h : fs.Opens fs') (hplace : fs.place p = .ok (.entry dir name slash)) :
    fs'.place p = .ok (.entry dir name slash) := by
  obtain ⟨hcheck, names, empties, hsegments, hempties, hidle, hdots, hlong, hdir, henter, hslash⟩ :=
    place_entry_iff.mp hplace
  have hstart : fs'.start p = fs.start p := by rw [start, start, h.current]
  refine place_entry_iff.mpr ⟨hcheck, names, empties, hsegments, hempties, hidle, hdots, hlong, ?_,
    h.enter dir henter, hslash⟩
  rw [hstart]
  exact h.follow hdir henter

/-! ### What is at a place -/

theorem find_eq_ok_iff {n : Node} :
    fs.find p = .ok (l, n) ↔ fs.resolve p = .ok l ∧ fs.node? l = some n := by
  rw [find, bind_eq_ok]
  constructor
  · rintro ⟨l', hl', h⟩
    cases hnode : fs.node? l' with
    | none => simp [hnode, throw, throwThe, MonadExceptOf.throw] at h
    | some n' =>
      obtain ⟨rfl, rfl⟩ : l' = l ∧ n' = n := by simpa [hnode, pure, Except.pure] using h
      exact ⟨hl', hnode⟩
  · rintro ⟨hl, hn⟩
    exact ⟨l, hl, by simp [hn, pure, Except.pure]⟩

theorem follow_append (start : Location) (names names' : List FileName) :
    fs.follow start (names ++ names') = (fs.follow start names >>= fun l => fs.follow l names') := by
  induction names generalizing start with
  | nil => rfl
  | cons name names ih =>
    rw [List.cons_append, follow, follow]
    cases fs.enter start with
    | error e => rfl
    | ok _ =>
      simp only [bind, Except.bind]
      split
      · exact ih start
      split
      · exact ih start.dropLast
      split
      · rfl
      split
      · rfl
      · exact ih (start ++ [name])

/-- A name that is no dots leads from a directory to what is in it. -/
theorem follow_name (names : List FileName) (hidle : Path.isIdle name = false)
    (hdots : name ≠ [Path.dot, Path.dot]) (hlong : name.length ≤ maxName)
    (henter : fs.enter dir = .ok ()) :
    fs.follow dir (name :: names) =
      if (fs.node? (dir ++ [name])).isNone then .error .notFound
      else fs.follow (dir ++ [name]) names := by
  rw [follow, henter]
  simp [bind, Except.bind, hidle, hdots, not_lt.mpr hlong, throw, throwThe, MonadExceptOf.throw]

/-- A path to something leads to a directory that is not given by its name, or to a name under
which there is something. -/
theorem place_of_resolve (h : fs.resolve p = .ok l) :
    (∃ l', fs.place p = .ok (.directory l')) ∨
      ∃ dir name slash, fs.place p = .ok (.entry dir name slash) ∧
        (fs.node? (dir ++ [name])).isSome := by
  have hresolve := h
  obtain ⟨⟨⟩, hcheck, h⟩ := bind_eq_ok.mp h
  by_cases hall : ∀ part ∈ p.segments, part = []
  · refine .inl ⟨[], ?_⟩
    rw [place_of_empty hall, hcheck]
    rfl
  · obtain ⟨names, name, empties, hsegments, hname, hempties⟩ := exists_last_name _ hall
    by_cases hdots : name = [Path.dot] ∨ name = [Path.dot, Path.dot]
    · refine .inl ⟨l, ?_⟩
      rw [place_of_segments hsegments hempties hname, hcheck]
      simp [bind, Except.bind, hdots, hresolve, pure, Except.pure]
    · obtain ⟨hdot, hparent⟩ := not_or.mp hdots
      have hidle : Path.isIdle name = false := by simp [Path.isIdle, hname, hdot]
      rw [hsegments, follow_append] at h
      obtain ⟨dir, hdir, h⟩ := bind_eq_ok.mp h
      obtain ⟨⟨⟩, henter, hnext⟩ := bind_eq_ok.mp h
      -- The name was followed, so that it is not too long and there is something under it.
      have hlong : name.length ≤ maxName := by
        by_contra hlong
        simp [hidle, hparent, not_le.mp hlong, throw, throwThe, MonadExceptOf.throw] at hnext
      refine .inr ⟨dir, name, !empties.isEmpty, ?_, ?_⟩
      · exact place_entry_iff.mpr ⟨hcheck, names, empties, hsegments, hempties, hidle, hparent,
          hlong, hdir, henter, rfl⟩
      · rw [follow_name _ hidle hparent hlong henter] at h
        by_contra hnone
        rw [if_pos (by simpa using hnone)] at h
        cases h

/-- What has a name in a directory is found under that name. -/
theorem find_of_place (h : fs.place p = .ok (.entry dir name false)) :
    fs.find p = match fs.node? (dir ++ [name]) with
      | some n => .ok (dir ++ [name], n)
      | none => .error .notFound := by
  obtain ⟨hcheck, names, empties, hsegments, -, hidle, hdots, hlong, hdir, henter, hslash⟩ :=
    place_entry_iff.mp h
  obtain rfl : empties = [] := by simpa using hslash
  have hresolve : fs.resolve p = if (fs.node? (dir ++ [name])).isNone then .error .notFound
      else .ok (dir ++ [name]) := by
    rw [resolve, hcheck, hsegments]
    simp only [bind, Except.bind]
    rw [follow_append, hdir]
    exact follow_name [] hidle hdots hlong henter
  rw [find, hresolve]
  cases hnode : fs.node? (dir ++ [name]) with
  | none => rfl
  | some n => simp [bind, Except.bind, hnode, pure, Except.pure]

theorem find_eq_ok_iff_of_place (h : fs.place p = .ok (.entry dir name false)) {n : Node} :
    fs.find p = .ok (l, n) ↔ l = dir ++ [name] ∧ fs.node? l = some n := by
  rw [find_of_place h]
  constructor
  · intro hfind
    split at hfind
    · next hnode =>
      obtain ⟨rfl, rfl⟩ := Prod.mk.inj (Except.ok.inj hfind)
      exact ⟨rfl, hnode⟩
    · cases hfind
  · rintro ⟨rfl, hnode⟩
    rw [hnode]

/-- What is set under a name in a directory is found there. -/
theorem find_put_of_place (h : fs.place p = .ok (.entry dir name false)) (hl : l = dir ++ [name])
    (hne : ∀ mode, fs.node? l ≠ some (.directory mode)) (n : Node) :
    (fs.put l n).find p = .ok (l, n) := by
  refine (find_eq_ok_iff_of_place ((opens_put hne n).place_entry h)).mpr ⟨hl, ?_⟩
  rw [node?_put fs (ne_nil_of_ne_directory hne), if_pos rfl]

/-- What a path leads to where it is written: a file with its permission bits, or nothing yet,
which gets the bits of new files. -/
def IsTarget (fs : FileSystem) (p : Path) (l : Location) (mode : ℕ) : Prop :=
  (∃ old, fs.find p = .ok (l, .file old mode)) ∨
    fs.find p = .error .notFound ∧ fs.node? l = none ∧ mode = fileMode

theorem isTarget_of_file {old : Text.Bytes} {mode : ℕ}
    (h : fs.place p = .ok (.entry dir name false)) (hl : l = dir ++ [name])
    (hnode : fs.node? l = some (.file old mode)) : fs.IsTarget p l mode :=
  .inl ⟨old, (find_eq_ok_iff_of_place h).mpr ⟨hl, hnode⟩⟩

theorem isTarget_of_none (h : fs.place p = .ok (.entry dir name false)) (hl : l = dir ++ [name])
    (hnode : fs.node? l = none) : fs.IsTarget p l fileMode := by
  refine .inr ⟨?_, hnode, rfl⟩
  rw [find_of_place h, ← hl, hnode]

end SageEditor.FileSystem
