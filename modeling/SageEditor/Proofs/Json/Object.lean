/-
Objects, and the records that are read out of values.

* `get?_insert` — a member that is set is the one that is found, and all others stay;
* `record_object_eq_ok_iff` — a record is read from an object whose known members have their shapes;
* `record_array_eq_ok_iff` — a record whose fields all may be missing is read from a list that is
  not too long, by the places of its items.

Design notes: no order of the members is needed, and a name may even be there twice, since looking
up and setting a member both walk to the first one of that name.
-/
import SageEditor.Json.Decode
import SageEditor.Proofs.Json.Grammar

namespace SageEditor.Json

/-! ### Members -/

namespace Object

theorem get?_insert (o : Object) (name : String) (v : Json) (other : String) :
    (o.insert name v).get? other = if other = name then some v else o.get? other := by
  induction o with
  | nil => simp only [insert, get?]
  | cons m o ih =>
    obtain ⟨key, old⟩ := m
    rw [insert]
    split
    next => simp only [get?]
    next =>
      split
      next heq =>
        subst heq
        simp only [get?]
        split <;> rfl
      next hne =>
        simp only [get?]
        split
        next hkey => rw [if_neg fun h => hne (h.symm.trans hkey)]
        next => exact ih

theorem mem_of_get? {o : Object} {name : String} {v : Json} (h : o.get? name = some v) :
    (name, v) ∈ o := by
  induction o with
  | nil => simp [get?] at h
  | cons m o ih =>
    obtain ⟨key, old⟩ := m
    rw [get?] at h
    split at h
    · next heq =>
      obtain rfl := Option.some.inj h
      exact heq ▸ List.mem_cons_self
    · exact List.mem_cons_of_mem _ (ih h)

end Object

/-! ### Simple values -/

namespace Decode

theorem forM_eq_ok_iff {ε α : Type} {f : α → Except ε Unit} {xs : List α} :
    xs.forM f = .ok () ↔ ∀ x ∈ xs, f x = .ok () := by
  induction xs with
  | nil => exact ⟨fun _ x hx => absurd hx (by simp), fun _ => rfl⟩
  | cons x xs ih =>
    rw [List.forall_mem_cons, ← ih, List.forM, bind_eq_ok]
    exact ⟨fun ⟨_, hx, hxs⟩ => ⟨hx, hxs⟩, fun ⟨hx, hxs⟩ => ⟨(), hx, hxs⟩⟩

theorem check_eq_ok_iff {α : Type} {d : Decoder α} {v : Json} :
    check d v = .ok () ↔ ∃ a, d v = .ok a := by
  rw [check, map_eq_ok]
  exact ⟨fun ⟨a, ha, _⟩ => ⟨a, ha⟩, fun ⟨a, ha⟩ => ⟨a, ha, rfl⟩⟩

theorem option_eq_ok_iff {α : Type} {d : Decoder α} {v : Json} {o : Option α} :
    option d v = .ok o ↔ (v = .null ∧ o = none) ∨ v ≠ .null ∧ ∃ a, d v = .ok a ∧ some a = o := by
  cases v with
  | null => simp [option, eq_comm]
  | _ => simp [option, map_eq_ok]

theorem check_option_eq_ok_iff {α : Type} {d : Decoder α} {v : Json} :
    check (option d) v = .ok () ↔ v = .null ∨ ∃ a, d v = .ok a := by
  rw [check_eq_ok_iff]
  cases v with
  | null => simp [option]
  | _ => simp [option, map_eq_ok]

theorem text_eq_ok_iff {v : Json} {s : String} : text v = .ok s ↔ v = .string s := by
  cases v <;> simp [text, differs]

theorem flag_eq_ok_iff {v : Json} {b : Bool} : flag v = .ok b ↔ v = .bool b := by
  cases v <;> simp [flag, differs]

/-! ### Members that may be missing -/

section

variable {α β : Type} {members : Object} {name : String} {d : Decoder α}

theorem exists_field? (h : ∀ w, (name, w) ∈ members → check (option d) w = .ok ()) :
    ∃ o, field? members name d = .ok o := by
  rw [field?]
  split
  · exact ⟨none, rfl⟩
  · next w hw => exact check_eq_ok_iff.mp (h w (Object.mem_of_get? hw))

/-- What is read of a member, if a value that is read as `a` stands for `f a`. -/
theorem map_of_field? {o : Option α} {f : α → β} {read : Json → Option β}
    (hread : ∀ w a, d w = .ok a → read w = some (f a)) (hnull : read .null = none)
    (h : field? members name d = .ok o) : o.map f = (members.get? name).bind read := by
  rw [field?] at h
  split at h
  · next hnone =>
    obtain rfl := Except.ok.inj h
    rw [hnone]
    rfl
  · next w hw =>
    rw [hw, Option.bind_some]
    rcases option_eq_ok_iff.mp h with ⟨rfl, rfl⟩ | ⟨-, a, ha, rfl⟩
    · rw [hnull, Option.map_none]
    · rw [hread w a ha, Option.map_some]

end

/-! ### Records -/

variable {name : String} {fields : List Field}

theorem checkMembers_eq_ok_iff {members : Object} :
    checkMembers fields members = .ok () ↔
      ∀ m ∈ members, ∀ field, fields.find? (·.name = m.1) = some field →
        field.check m.2 = .ok () := by
  rw [checkMembers, forM_eq_ok_iff]
  refine forall₂_congr fun m _ => ?_
  cases hfind : fields.find? (·.name = m.1) with
  | none => simp [hfind]
  | some field => simp [hfind]

theorem checkPresence_eq_ok_iff {members : Object} :
    checkPresence fields members = .ok () ↔
      ∀ field ∈ fields, field.presence = .required → (members.get? field.name).isSome := by
  rw [checkPresence, forM_eq_ok_iff]
  refine forall₂_congr fun field _ => ?_
  cases hvalue : members.get? field.name with
  | none => by_cases hpresence : field.presence = .required <;> simp [hpresence]
  | some v => simp

/-- Which objects are records. -/
theorem record_object_eq_ok_iff {members out : Object} :
    record name fields (.object members) = .ok out ↔
      (∀ m ∈ members, ∀ field, fields.find? (·.name = m.1) = some field →
        field.check m.2 = .ok ()) ∧
      (∀ field ∈ fields, field.presence = .required → (members.get? field.name).isSome) ∧
      out = members := by
  rw [← checkMembers_eq_ok_iff, ← checkPresence_eq_ok_iff]
  simp only [record, recordIn, bind_eq_ok, pure, Except.pure, Except.ok.injEq]
  constructor
  · rintro ⟨⟨⟩, hmembers, ⟨⟩, hpresence, rfl⟩
    exact ⟨hmembers, hpresence, rfl⟩
  · rintro ⟨hmembers, hpresence, rfl⟩
    exact ⟨(), hmembers, (), hpresence, rfl⟩

theorem checkItems_eq_ok_iff (h : ∀ field ∈ fields, field.presence = .defaulted)
    {describe : String} {form : Form} {count index : ℕ} {items : List Json} {out : Object} :
    checkItems describe form count index fields items = .ok out ↔
      items.length ≤ fields.length ∧
      (∀ entry ∈ fields.zip items, entry.1.check entry.2 = .ok ()) ∧
      out = (fields.map (·.name)).zip items := by
  induction fields generalizing index items out with
  | nil =>
    cases items with
    | nil => simp [checkItems, eq_comm]
    | cons v items => simp [checkItems]
  | cons field fields ih =>
    obtain ⟨hfield, hfields⟩ := List.forall_mem_cons.mp h
    cases items with
    | nil =>
      rw [checkItems, if_pos hfield, ih hfields]
      simp
    | cons v items =>
      simp only [checkItems, bind_eq_ok, ih hfields, pure, Except.pure, Except.ok.injEq,
        List.zip_cons_cons, List.forall_mem_cons, List.length_cons, Nat.add_le_add_iff_right,
        List.map_cons]
      constructor
      · rintro ⟨⟨⟩, hv, _, ⟨hlength, hitems, rfl⟩, rfl⟩
        exact ⟨hlength, ⟨hv, hitems⟩, rfl⟩
      · rintro ⟨hlength, ⟨hv, hitems⟩, rfl⟩
        exact ⟨(), hv, _, ⟨hlength, hitems, rfl⟩, rfl⟩

/-- Which lists are records. -/
theorem record_array_eq_ok_iff (h : ∀ field ∈ fields, field.presence = .defaulted)
    {items : List Json} {out : Object} :
    record name fields (.array items) = .ok out ↔
      items.length ≤ fields.length ∧
      (∀ entry ∈ fields.zip items, entry.1.check entry.2 = .ok ()) ∧
      out = (fields.map (·.name)).zip items :=
  checkItems_eq_ok_iff h

end Decode

end SageEditor.Json
