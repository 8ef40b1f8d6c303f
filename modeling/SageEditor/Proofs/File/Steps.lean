/-
The steps of a path and what more bytes at its end make of them.

* `Path.components_eq` — a path has a first step that depends on how it begins, and a step for
  each part that is not idle;
* `Path.fileName?_eq_some_iff` — its name is the part that its last step comes from;
* `Path.append_of_getLast?` — where a path as it is written ends in its name, more bytes make that
  name longer and leave everything before it as it was;
* `Path.append_of_getLast?_ne` — where it does not, it ends in an idle part, and more bytes make a
  further step of that part, so that the longer path lies below the shorter one.

Design notes: more bytes come to the last part, whether or not a step comes from it.
-/
import Mathlib.Data.List.Basic
import SageEditor.File.Path

namespace SageEditor.Path

open Text (Utf8.encode)

/-! ### Parts -/

theorem split_of_not_mem {bytes : Text.Bytes} (h : separator ∉ bytes) : split bytes = [bytes] := by
  induction bytes with
  | nil => rfl
  | cons b rest ih =>
    obtain ⟨hb, hrest⟩ := List.ne_and_not_mem_of_not_mem_cons h
    rw [split, if_neg hb.symm, ih hrest]

/-- Bytes without a separator come to the last part. -/
theorem exists_split_append (bytes : Text.Bytes) {more : Text.Bytes} (hmore : separator ∉ more) :
    ∃ init last, split bytes = init ++ [last] ∧ split (bytes ++ more) = init ++ [last ++ more] := by
  induction bytes with
  | nil => exact ⟨[], [], rfl, split_of_not_mem hmore⟩
  | cons b rest ih =>
    obtain ⟨init, last, h, h'⟩ := ih
    rw [List.cons_append, split, split, h, h']
    by_cases hb : b = separator
    · exact ⟨[] :: init, last, if_pos hb, if_pos hb⟩
    · rw [if_neg hb, if_neg hb]
      cases init with
      | nil => exact ⟨[], b :: last, rfl, rfl⟩
      | cons name names => exact ⟨(b :: name) :: names, last, rfl, rfl⟩

/-- The bytes of a path are its names, each behind a separator. -/
theorem flatMap_split (bytes : Text.Bytes) :
    (split bytes).flatMap (separator :: ·) = separator :: bytes := by
  induction bytes with
  | nil => rfl
  | cons b bytes ih =>
    rw [split]
    split
    · next hb => rw [List.flatMap_cons, ih, hb]; rfl
    · cases hsplit : split bytes with
      | nil => rw [hsplit] at ih; cases ih
      | cons name names =>
        rw [hsplit, List.flatMap_cons] at ih
        simpa using ih

/-! ### Steps -/

/-- The first step of a path, if no part of its own is that step. -/
def lead (p : Path) : List Component :=
  if p.isAbsolute then [.root] else if p.segments.head? = some [dot] then [.current] else []

/-- The steps of parts. -/
def steps (names : List FileName) : List Component :=
  (names.filter (!isIdle ·)).map .ofName

theorem components_eq (p : Path) : p.components = p.lead ++ steps p.segments := by
  rw [components, lead, steps]
  split
  · rfl
  · split <;> rfl

theorem steps_append (names names' : List FileName) :
    steps (names ++ names') = steps names ++ steps names' := by
  rw [steps, List.filter_append, List.map_append, steps, steps]

theorem steps_of_idle {name : FileName} (h : isIdle name = true) : steps [name] = [] := by
  simp [steps, h]

theorem steps_of_not_idle {name : FileName} (h : isIdle name = false) :
    steps [name] = [.ofName name] := by
  simp [steps, h]

theorem ofName_eq_normal {name name' : FileName} (h : Component.ofName name = .normal name') :
    name = name' := by
  rw [Component.ofName] at h
  split at h
  · cases h
  · exact Component.normal.inj h

theorem fileName?_eq_some_iff {p : Path} {name : FileName} :
    p.fileName? = some name ↔ p.components.getLast? = some (.normal name) := by
  rw [fileName?]
  constructor
  · intro h
    split at h
    · next hlast => rw [hlast, Option.some.inj h]
    · cases h
  · intro h
    rw [h]

/-- No name comes from how a path begins. -/
theorem normal_not_mem_lead (p : Path) (name : FileName) : .normal name ∉ p.lead := by
  rw [lead]
  split
  · simp
  · split <;> simp

theorem not_idle_of_fileName? {p : Path} {name : FileName} (h : p.fileName? = some name) :
    isIdle name = false ∧ Component.ofName name = .normal name := by
  have hmem := List.mem_of_getLast? (fileName?_eq_some_iff.mp h)
  rw [components_eq, List.mem_append] at hmem
  obtain ⟨name', hname', hnormal⟩ :=
    List.mem_map.mp (hmem.resolve_left (normal_not_mem_lead p name))
  obtain rfl := ofName_eq_normal hnormal
  exact ⟨by simpa using (List.mem_filter.mp hname').2, hnormal⟩

/-- A name comes from the last part, or that part is idle and the name comes from one before it. -/
theorem last_of_fileName? {p : Path} {name last : FileName} {init : List FileName}
    (hname : p.fileName? = some name) (hsegments : p.segments = init ++ [last]) :
    last = name ∨ isIdle last = true ∧ init ≠ [] := by
  rw [fileName?_eq_some_iff, components_eq, hsegments, steps_append, ← List.append_assoc] at hname
  cases hidle : isIdle last with
  | false =>
    rw [steps_of_not_idle hidle, List.getLast?_concat] at hname
    exact .inl (ofName_eq_normal (Option.some.inj hname))
  | true =>
    refine .inr ⟨rfl, ?_⟩
    rintro rfl
    rw [steps_of_idle hidle, List.append_nil, steps, List.filter_nil, List.map_nil,
      List.append_nil] at hname
    exact normal_not_mem_lead p name (List.mem_of_getLast? hname)

/-- A path with a name ends in that name, or else in a separator or a dot. -/
theorem getLast?_bytes {p : Path} {name : FileName} (hname : p.fileName? = some name) :
    p.bytes.getLast? = name.getLast? ∨ p.bytes.getLast? = some separator ∨
      p.bytes.getLast? = some dot := by
  obtain ⟨init, last, hsegments, -⟩ := exists_split_append p.bytes List.not_mem_nil
  have hbytes := flatMap_split p.bytes
  rw [hsegments, List.flatMap_append, List.flatMap_singleton] at hbytes
  have hlength := congrArg List.length hbytes
  rw [List.length_append, List.length_cons, List.length_cons] at hlength
  have hlast : 0 < p.bytes.length → p.bytes.getLast? = (separator :: last).getLast? := by
    intro hlong
    have hends := congrArg List.getLast? hbytes
    rw [List.getLast?_append_of_ne_nil _ (List.cons_ne_nil _ _)] at hends
    rw [hends, ← List.singleton_append,
      List.getLast?_append_of_ne_nil _ (List.ne_nil_of_length_pos hlong)]
  obtain rfl | ⟨hidle, hinit⟩ := last_of_fileName? hname hsegments
  · obtain ⟨b, bs, rfl⟩ : ∃ b bs, last = b :: bs := by
      refine List.exists_cons_of_ne_nil ?_
      rintro rfl
      cases (not_idle_of_fileName? hname).1
    left
    rw [hlast (by rw [List.length_cons] at hlength; omega), List.getLast?_cons_cons]
  · obtain rfl | rfl : last = [] ∨ last = [dot] := by simpa [isIdle] using hidle
    · obtain ⟨first, init, rfl⟩ := List.exists_cons_of_ne_nil hinit
      right; left
      rw [List.flatMap_cons, List.length_append, List.length_cons] at hlength
      exact hlast (by omega)
    · right; right
      exact hlast (by rw [List.length_singleton] at hlength; omega)

/-! ### More bytes at the end -/

variable {p : Path} {more : String} {name last : FileName} {init : List FileName}

theorem not_idle_append (hlong : 2 < (Utf8.encode more).length) (last : FileName) :
    isIdle (last ++ Utf8.encode more) = false ∧
      Component.ofName (last ++ Utf8.encode more) = .normal (last ++ Utf8.encode more) := by
  have hne : ∀ name : FileName, name.length ≤ 2 → last ++ Utf8.encode more ≠ name := by
    intro name hshort h
    have hlength := congrArg List.length h
    rw [List.length_append] at hlength
    omega
  constructor
  · rw [isIdle, Bool.or_eq_false_iff, List.isEmpty_eq_false_iff, beq_eq_false_iff_ne]
    exact ⟨hne [] (by simp), hne [dot] (by simp)⟩
  · rw [Component.ofName, if_neg (hne [dot, dot] (by simp))]

/-- A path that has more than an idle part begins as it did. -/
theorem lead_append (hsegments : p.segments = init ++ [last])
    (hsegments' : (p.append more).segments = init ++ [last ++ Utf8.encode more])
    (hlong : 2 < (Utf8.encode more).length) (hfirst : init = [] → isIdle last = false) :
    (p.append more).lead = p.lead := by
  have hbytes : p.bytes ≠ [] := by
    intro hempty
    have hparts : [[]] = init ++ [last] := by rw [← hsegments, segments, hempty, split]
    cases init with
    | nil =>
      obtain rfl : [] = last := List.singleton_inj.mp hparts
      cases hfirst rfl
    | cons _ _ => simp at hparts
  have habsolute : (p.append more).isAbsolute = p.isAbsolute := by
    rw [isAbsolute, isAbsolute, append, List.head?_append_of_ne_nil _ hbytes]
  have hdot : (p.append more).segments.head? = some [dot] ↔ p.segments.head? = some [dot] := by
    rw [hsegments, hsegments']
    cases init with
    | nil =>
      -- The first part is the last one too, and an idle one neither before nor after.
      have hlast := hfirst rfl
      have hlonger := (not_idle_append hlong last).1
      constructor
      · intro h
        rw [Option.some.inj h] at hlonger
        cases hlonger
      · intro h
        rw [Option.some.inj h] at hlast
        cases hlast
    | cons _ _ => exact Iff.rfl
  rw [lead, lead, habsolute]
  simp only [hdot]

/-- What stands before the last part decides where the last step starts from. -/
theorem parent?_congr {q : Path} {last' : FileName} (hp : p.segments = init ++ [last])
    (hq : q.segments = init ++ [last']) (hlast : isIdle last = false)
    (hlast' : isIdle last' = false) : p.parent? = q.parent? := by
  have hdrop : ∀ (names : List FileName) {name : FileName}, isIdle name = false →
      dropIdle (names ++ [name]) = names ++ [name] := by
    intro names name hname
    rw [dropIdle, List.reverse_concat, List.dropWhile_cons_of_neg (by simp [hname]),
      ← List.reverse_concat, List.reverse_reverse]
  have hne : ∀ {name : FileName}, isIdle name = false → name ≠ [] ∧ name ≠ [dot] := by
    intro name hname
    constructor <;> rintro rfl <;> cases hname
  cases init with
  | nil =>
    have hp' := hdrop [] hlast
    have hq' := hdrop [] hlast'
    simp only [List.nil_append] at hp hq hp' hq'
    simp [parent?, hp, hq, hp', hq', hne hlast, hne hlast']
  | cons first others =>
    by_cases hfirst : first = [dot] ∨ first = []
    · have hp' := hdrop others hlast
      have hq' := hdrop others hlast'
      simp [parent?, hp, hq, hp', hq', hfirst]
    · have hp' := hdrop (first :: others) hlast
      have hq' := hdrop (first :: others) hlast'
      have hfront : ∀ name, (first :: (others ++ [name])).dropLast = first :: others := by
        intro name
        rw [← List.cons_append, List.dropLast_concat]
      simp only [List.cons_append] at hp hq hp' hq'
      simp [parent?, hp, hq, hp', hq', hfirst, hfront]

/-- **Where a path ends in its name**, more bytes make that name longer.  What stands before it
and the path's parent stay as they were. -/
theorem append_of_getLast? (hname : p.fileName? = some name)
    (hlast : p.segments.getLast? = some name) (hmore : separator ∉ Utf8.encode more)
    (hlong : 2 < (Utf8.encode more).length) :
    (p.append more).parent? = p.parent? ∧
      ∃ front, p.components = front ++ [.normal name] ∧
        (p.append more).components = front ++ [.normal (name ++ Utf8.encode more)] := by
  obtain ⟨init, last, hsegments, hsegments'⟩ := exists_split_append p.bytes hmore
  change p.segments = init ++ [last] at hsegments
  change (p.append more).segments = _ at hsegments'
  obtain rfl : last = name := by
    rw [hsegments, List.getLast?_concat] at hlast
    exact Option.some.inj hlast
  obtain ⟨hidle, hnormal⟩ := not_idle_of_fileName? hname
  obtain ⟨hidle', hnormal'⟩ := not_idle_append hlong last
  refine ⟨parent?_congr hsegments' hsegments hidle' hidle, p.lead ++ steps init, ?_, ?_⟩
  · rw [components_eq, hsegments, steps_append, steps_of_not_idle hidle, hnormal,
      ← List.append_assoc]
  · rw [components_eq, lead_append hsegments hsegments' hlong fun _ => hidle, hsegments',
      steps_append, steps_of_not_idle hidle', hnormal', ← List.append_assoc]

/-- **Where a path does not end in its name**, it ends in an idle part, and more bytes make a
further step of that part. -/
theorem append_of_getLast?_ne (hname : p.fileName? = some name)
    (hlast : p.segments.getLast? = some last) (hne : last ≠ name)
    (hmore : separator ∉ Utf8.encode more) (hlong : 2 < (Utf8.encode more).length) :
    isIdle last = true ∧
      (p.append more).components = p.components ++ [.normal (last ++ Utf8.encode more)] := by
  obtain ⟨init, last', hsegments, hsegments'⟩ := exists_split_append p.bytes hmore
  change p.segments = init ++ [last'] at hsegments
  change (p.append more).segments = _ at hsegments'
  obtain rfl : last' = last := by
    rw [hsegments, List.getLast?_concat] at hlast
    exact Option.some.inj hlast
  obtain ⟨hidle, hinit⟩ := (last_of_fileName? hname hsegments).resolve_left hne
  obtain ⟨hidle', hnormal'⟩ := not_idle_append hlong last'
  refine ⟨hidle, ?_⟩
  have hlead := lead_append hsegments hsegments' hlong fun h => absurd h hinit
  rw [components_eq, hlead, hsegments', steps_append, steps_of_not_idle hidle', hnormal',
    components_eq, hsegments, steps_append, steps_of_idle hidle, List.append_nil,
    ← List.append_assoc]

end SageEditor.Path
