/-
Renderings of records.

* `IsText`, `IsList`, `IsRecord` — the token sequences that render a string, a list, and a record
  whose fields stand in any order, with members of other names in between;
* `takes_text`, `takes_list`, `takes_record` — the readers take all of them;
* `isRecord_written` — what is written of a record is one of them.

Design notes: a record is rendered together with the list of the fields that it gives, as it gives
them.  The reader keeps a slot for each field, and what it holds after some members is what looking
up the fields in those given so far finds, which is the invariant of the walk.
-/
import Mathlib.Data.List.Nodup
import Mathlib.Data.List.ReduceOption
import SageEditor.Json.Record
import SageEditor.Proofs.Json.Skipped
import SageEditor.Proofs.Json.Written

namespace SageEditor.Json

open Read

/-! ### Renderings -/

/-- A string, spelled with any escapes. -/
def IsText (ts : List Token) (s : String) : Prop :=
  ∃ body, ts = [.string body] ∧ StringText body s.toList

/-- A list of items. -/
def IsList {α : Type} (item : List Token → α → Prop) (ts : List Token) (as : List α) : Prop :=
  ∃ us, Bracketed '[' ']' ts us ∧ Items item true us as

/-- A member of a record: a field with its value, or another member with a value of any kind. -/
inductive RecordMember {β : Type} (fields : List String) (value : List Token → β → Prop) :
    List Token → Option (String × β) → Prop
  | field {name : String} {body : List Char} {us : List Token} {b : β}
    (hbody : StringText body name.toList) (hname : name ∈ fields) (hvalue : value us b) :
    RecordMember fields value (.string body :: .mark ':' :: us) (some (name, b))
  | other {name : String} {body : List Char} {us : List Token}
    (hbody : StringText body name.toList) (hname : name ∉ fields) (hvalue : IsJson .value us) :
    RecordMember fields value (.string body :: .mark ':' :: us) none

/-- An object that gives some fields, none of them twice. -/
def IsRecord {β : Type} (fields : List String) (value : List Token → β → Prop) (ts : List Token)
    (given : List (String × β)) : Prop :=
  ∃ us ms, Bracketed '{' '}' ts us ∧ Items (RecordMember fields value) true us ms ∧
    given = ms.reduceOption ∧ (given.map (·.1)).Nodup

/-! ### Strings and lists -/

theorem takes_text : Takes Read.text IsText := by
  refine ⟨fun {ts cs rest s} h hspells _ => ?_, fun h => ?_, fun h => ?_⟩
  · obtain ⟨body, rfl, hbody⟩ := h
    obtain ⟨mid, hskip, hnil⟩ := hspells.of_string
    cases hnil
    have hread := stringRest_of_stringText hbody [] rest
    simp [Read.text, hskip, hread]
  · obtain ⟨body, rfl, hbody⟩ := h
    simpa using wellFormed_of_stringText hbody
  · obtain ⟨body, rfl, hbody⟩ := h
    exact ⟨_, [], rfl, by simp⟩

theorem takes_list {α : Type} {read : ℕ → Reader α} {item : List Token → α → Prop} {depth : ℕ}
    (hread : Takes (read depth) item) : Takes (Read.list read (depth + 1)) (IsList item) := by
  refine ⟨fun {ts cs rest as} h hspells _ => ?_, fun h => ?_, fun h => ?_⟩
  · obtain ⟨us, rfl, hus⟩ := h
    obtain ⟨mid, hskip, hspells⟩ := hspells.of_mark
    have hitems := items_of_items hread hus hspells
    simp [Read.list, hskip, hitems]
  · obtain ⟨us, hts, hus⟩ := h
    exact wellFormed_bracketed hts (by decide) (by decide)
      (hus.wellFormed fun _ _ => hread.wellFormed)
  · obtain ⟨us, rfl, -⟩ := h
    exact ⟨_, _, rfl, by simp⟩

/-! ### Slots -/

section Slots

variable {β : Type} {names : List String} {given : List (String × β)} {name : String} {b : β}

theorem lookup_eq_none_of_not_mem (h : name ∉ given.map (·.1)) : given.lookup name = none := by
  rw [List.lookup_eq_none_iff]
  intro p hp
  have hne : name ≠ p.1 := by
    rintro rfl
    exact h (List.mem_map_of_mem hp)
  simpa using hne

/-- What the slots of the fields hold once these fields have been given. -/
def slots (names : List String) (given : List (String × β)) : List (Option β) :=
  names.map fun name => given.lookup name

/-- Filling the slot of a field is adding the field to those that are given. -/
theorem set_slots (hnames : names.Nodup) {i : ℕ} (hi : names[i]? = some name)
    (hnew : name ∉ given.map (·.1)) :
    (slots names given).set i (some b) = slots names (given ++ [(name, b)]) := by
  obtain ⟨hlt, hname⟩ := List.getElem?_eq_some_iff.mp hi
  unfold slots
  refine List.ext_getElem (by simp) fun j hj hj' => ?_
  have hjlt : j < names.length := by simpa using hj'
  rw [List.getElem_set, List.getElem_map, List.getElem_map, List.lookup_append]
  by_cases hij : i = j
  · subst hij
    rw [if_pos rfl, hname, lookup_eq_none_of_not_mem hnew]
    simp
  · -- The names differ, so the new field is not what is looked up here.
    have hne : names[j] ≠ name := by
      intro heq
      exact hij ((List.Nodup.getElem_inj_iff hnames).mp (hname.trans heq.symm))
    have hnone : List.lookup names[j] [(name, b)] = none :=
      lookup_eq_none_of_not_mem (by simpa using hne)
    rw [if_neg hij, hnone, Option.or_none]

theorem exists_findIdx?_eq (h : name ∈ names) : ∃ i, names.findIdx? (· = name) = some i := by
  rw [← Option.isSome_iff_exists, List.findIdx?_isSome, List.any_eq_true]
  exact ⟨name, h, by simp⟩

theorem getElem?_of_findIdx?_eq {i : ℕ} (h : names.findIdx? (· = name) = some i) :
    names[i]? = some name := by
  obtain ⟨hlt, hname, -⟩ := List.findIdx?_eq_some_iff_getElem.mp h
  rw [List.getElem?_eq_getElem hlt, of_decide_eq_true hname]

/-- The slot of a field that has not been given is empty. -/
theorem join_slots_eq_none {i : ℕ} (hi : names[i]? = some name)
    (hnew : name ∉ given.map (·.1)) : (slots names given)[i]?.join = none := by
  rw [slots, List.getElem?_map, hi]
  simp [lookup_eq_none_of_not_mem hnew]

theorem findIdx?_eq_none (h : name ∉ names) : names.findIdx? (· = name) = none := by
  rw [List.findIdx?_eq_none_iff]
  rintro x hx
  have hne : x ≠ name := by
    rintro rfl
    exact h hx
  simpa using hne

end Slots

/-! ### Records -/

section Records

variable {β : Type} {read : Reader β} {value : List Token → β → Prop} {fields : List String}
  {first : Bool} {ts : List Token} {cs mid rest : List Char}

theorem RecordMember.wellFormed (hread : Takes read value) {m : Option (String × β)}
    (h : RecordMember fields value ts m) : ∀ t ∈ ts, t.WellFormed := by
  have hcolon : (Token.mark ':').WellFormed := (by decide : isMark ':' = true)
  cases h with
  | field hbody _ hvalue =>
    exact List.forall_mem_cons.mpr ⟨wellFormed_of_stringText hbody,
      List.forall_mem_cons.mpr ⟨hcolon, hread.wellFormed hvalue⟩⟩
  | other hbody _ hvalue =>
    exact List.forall_mem_cons.mpr ⟨wellFormed_of_stringText hbody,
      List.forall_mem_cons.mpr ⟨hcolon, hvalue.wellFormed⟩⟩

/-- The walk over the members fills the slots of the fields that they give. -/
theorem fieldsByName_of_items (hread : Takes read value) (hfields : fields.Nodup)
    {ms : List (Option (String × β))} (h : Items (RecordMember fields value) first ts ms)
    (hspells : Spells ts cs mid) (hmid : skipBlanks mid = '}' :: rest)
    {given : List (String × β)} (hgiven : ((given ++ ms.reduceOption).map (·.1)).Nodup)
    {bound : ℕ} (hbound : ms.length < bound) :
    fieldsByName fields read first (slots fields given) bound cs =
      .ok (slots fields (given ++ ms.reduceOption), '}' :: rest) := by
  induction h generalizing given bound cs with
  | nil =>
    obtain ⟨bound, rfl⟩ := Nat.exists_eq_succ_of_ne_zero hbound.ne'
    cases hspells
    simp [fieldsByName, nextName_close hmid, bind, Except.bind, Except.mapError, pure, Except.pure]
  | @cons first ts us m ms hm hus ih =>
    obtain ⟨bound, rfl⟩ := Nat.exists_eq_succ_of_ne_zero (Nat.ne_zero_of_lt hbound)
    have hbound' : ms.length < bound := by
      rw [List.length_cons] at hbound
      omega
    obtain ⟨start, hcomma, hspells⟩ := hspells.of_append
    obtain ⟨behind, hspells, hspells'⟩ := hspells.of_append
    have hdelimited := hus.delimited hspells' hmid (by decide)
    cases hm with
    | @field name body vs b hbody hname hvalue =>
      obtain ⟨after, hstart, hspells⟩ := hspells.of_string
      obtain ⟨start', hcolon, hspells⟩ := hspells.of_mark
      have hname' := stringRest_of_stringText hbody [] after
      have hb := hread.complete hvalue hspells hdelimited
      rw [List.reduceOption_cons_of_some, ← List.singleton_append, ← List.append_assoc] at hgiven ⊢
      -- No field is given twice, so that its slot is still empty.
      have hnew : name ∉ given.map (·.1) := by
        rw [List.map_append, List.map_append, List.append_assoc, List.nodup_append] at hgiven
        intro hmem
        exact hgiven.2.2 name hmem name (by simp) rfl
      obtain ⟨i, hi⟩ := exists_findIdx?_eq hname
      have hat := getElem?_of_findIdx?_eq hi
      have hempty := join_slots_eq_none hat hnew
      have hrest := ih hspells' hgiven hbound'
      rw [fieldsByName, nextName_name hcomma hstart]
      simp [bind, Except.bind, Except.mapError, hname', hi, hempty, colon_eq_ok_iff.mpr hcolon, hb,
        set_slots hfields hat hnew, hrest]
    | @other name body vs hbody hname hvalue =>
      obtain ⟨after, hstart, hspells⟩ := hspells.of_string
      obtain ⟨start', hcolon, hspells⟩ := hspells.of_mark
      have hname' := stringRest_of_stringText hbody [] after
      have hskip := skip_of_isJson hvalue hspells hdelimited
      have hnone := findIdx?_eq_none hname
      rw [List.reduceOption_cons_of_none] at hgiven ⊢
      have hrest := ih hspells' hgiven hbound'
      rw [fieldsByName, nextName_name hcomma hstart]
      simp [bind, Except.bind, Except.mapError, hname', hnone, colon_eq_ok_iff.mpr hcolon, hskip,
        hrest]

/-- A record is taken if its fields can be put together. -/
theorem takes_record {α : Type} {shape : RecordShape β α} {depth : ℕ}
    (hread : Takes (shape.read depth) value) (hfields : shape.fields.Nodup) :
    Takes (record shape (depth + 1)) fun ts a => ∃ given, IsRecord shape.fields value ts given ∧
      shape.build (slots shape.fields given) = .ok a := by
  refine ⟨fun {ts cs rest a} h hspells _ => ?_, fun h => ?_, fun h => ?_⟩
  · obtain ⟨given, ⟨us, ms, rfl, hus, rfl, hgiven⟩, hbuild⟩ := h
    obtain ⟨start, hskip, hspells⟩ := hspells.of_mark
    obtain ⟨mid, hspells, hmark⟩ := hspells.of_append
    obtain ⟨_, hmid, hnil⟩ := hmark.of_mark
    cases hnil
    have hlength := hus.length_le fun ts m hm => by cases hm <;> simp
    have hle := hspells.length_le (hus.wellFormed fun _ _ => RecordMember.wellFormed hread)
    -- Before the first member no field has been given.
    have hempty : slots shape.fields [] = shape.fields.map fun _ => (none : Option β) := rfl
    have hwalk : fieldsByName shape.fields (shape.read depth) true (slots shape.fields [])
        (start.length + 1) start = .ok (slots shape.fields ms.reduceOption, '}' :: rest) :=
      fieldsByName_of_items hread hfields hus hspells hmid hgiven (by omega)
    rw [hempty] at hwalk
    have hclose : closeObject ('}' :: rest) = (.ok (), rest) :=
      closeObject_close (skipBlanks_cons (by decide) rest)
    simp only [record, hskip, hwalk, bind, Except.bind, hbuild, finish, hclose, pure, Except.pure]
  · obtain ⟨given, ⟨us, ms, hts, hus, -, -⟩, -⟩ := h
    exact wellFormed_bracketed hts (by decide) (by decide)
      (hus.wellFormed fun _ _ => RecordMember.wellFormed hread)
  · obtain ⟨given, ⟨us, ms, rfl, -⟩, -⟩ := h
    exact ⟨_, _, rfl, by simp⟩

end Records

/-! ### Writing -/

/-- What is written of an object with these fields renders them. -/
theorem isRecord_written {β : Type} {value : List Token → β → Prop} (fields : List String)
    (f : β → Json) (given : List (String × β)) (hfields : ∀ m ∈ given, m.1 ∈ fields)
    (hnodup : (given.map (·.1)).Nodup) (h : ∀ m ∈ given, value (written (f m.2)) m.2) :
    IsRecord fields value (written (.object (given.map fun m => (m.1, f m.2)))) given := by
  have hitems : ∀ first, Items (RecordMember fields value) first
      (writtenMembers first (given.map fun m => (m.1, f m.2))) (given.map some) := by
    clear hnodup
    induction given with
    | nil => exact fun first => .nil
    | cons m given ih =>
      intro first
      obtain ⟨hm, hgiven⟩ := List.forall_mem_cons.mp h
      obtain ⟨hname, hnames⟩ := List.forall_mem_cons.mp hfields
      have hmember : RecordMember fields value
          (.string (escaped m.1) :: .mark ':' :: written (f m.2)) (some m) :=
        .field (stringText_escaped m.1) hname hm
      exact .cons hmember (ih hnames hgiven false)
  refine ⟨_, given.map some, rfl, hitems true, ?_, hnodup⟩
  simp [List.reduceOption]

theorem isText_written (s : String) : IsText (written (.string s)) s :=
  ⟨_, rfl, stringText_escaped s⟩

end SageEditor.Json
