/-
Objects in the order of their names.

* `Object.Ordered` — the names grow from member to member, so that none is there twice;
* `ordered_insert`, `ordered_ofList` — the order that setting members keeps, and begins with;
* `ofList_of_ordered` — the members of an object in order make up that object;
* `ext_of_ordered` — objects in order are the same if the same is found in them;
* `Holds` — the objects in a value are in order, and its numbers have some property;
* `numbers`, `holds_of_numbers` — the numbers in a value.

Design notes: objects in order are the values of the program: every reader builds its objects by
setting members.  Only such a value is the same as what is read of its text.
-/
import SageEditor.Proofs.Json.Object

namespace SageEditor.Json

namespace Object

/-- The names of the members grow. -/
def Ordered (o : Object) : Prop := o.Pairwise (·.1 < ·.1)

theorem mem_insert {o : Object} {name : String} {v : Json} {m : String × Json}
    (h : m ∈ o.insert name v) : m = (name, v) ∨ m ∈ o := by
  induction o with
  | nil => exact .inl (List.mem_singleton.mp h)
  | cons m' o ih =>
    obtain ⟨key, old⟩ := m'
    rw [insert] at h
    split at h
    · simpa using h
    · split at h
      · next heq =>
        rcases List.mem_cons.mp h with rfl | hm
        · exact .inl (by rw [heq])
        · exact .inr (List.mem_cons_of_mem _ hm)
      · rcases List.mem_cons.mp h with rfl | hm
        · exact .inr List.mem_cons_self
        · exact (ih hm).imp_right (List.mem_cons_of_mem _)

theorem ordered_insert {o : Object} (h : o.Ordered) (name : String) (v : Json) :
    (o.insert name v).Ordered := by
  induction o with
  | nil => exact List.pairwise_singleton _ _
  | cons m o ih =>
    obtain ⟨key, old⟩ := m
    obtain ⟨hkey, ho⟩ := List.pairwise_cons.mp h
    rw [insert]
    split
    · next hlt =>
      refine List.pairwise_cons.mpr ⟨List.forall_mem_cons.mpr ⟨hlt, fun m hm => ?_⟩, h⟩
      exact String.lt_trans hlt (hkey m hm)
    · next hlt =>
      split
      · exact List.pairwise_cons.mpr ⟨hkey, ho⟩
      · next hne =>
        -- The new name is neither smaller nor the same, so it belongs behind the first one.
        have hgt : key < name := by
          by_contra hle
          exact hne (String.le_antisymm (String.not_lt.mp hle) (String.not_lt.mp hlt))
        refine List.pairwise_cons.mpr ⟨fun m hm => ?_, ih ho⟩
        rcases mem_insert hm with rfl | hm
        · exact hgt
        · exact hkey m hm

theorem ordered_foldl_insert (ms : List (String × Json)) {o : Object} (h : o.Ordered) :
    Ordered (ms.foldl (fun o m => o.insert m.1 m.2) o) := by
  induction ms generalizing o with
  | nil => exact h
  | cons m ms ih => exact ih (ordered_insert h m.1 m.2)

theorem ordered_ofList (ms : List (String × Json)) : Ordered (ofList ms) :=
  ordered_foldl_insert ms List.Pairwise.nil

/-- A name behind all others is set at the end. -/
theorem insert_of_lt {o : Object} {name : String} (h : ∀ m ∈ o, m.1 < name) (v : Json) :
    o.insert name v = o ++ [(name, v)] := by
  induction o with
  | nil => rfl
  | cons m o ih =>
    obtain ⟨hm, ho⟩ := List.forall_mem_cons.mp h
    have hne : name ≠ m.1 := by
      rintro rfl
      exact String.lt_irrefl _ hm
    rw [insert, if_neg (String.lt_asymm hm), if_neg hne, ih ho, List.cons_append]

theorem foldl_insert_of_ordered {o ms : Object} (h : Ordered (o ++ ms)) :
    ms.foldl (fun o m => o.insert m.1 m.2) o = o ++ ms := by
  induction ms generalizing o with
  | nil => simp
  | cons m ms ih =>
    have hlast : ∀ m' ∈ o, m'.1 < m.1 := fun m' hm' =>
      (List.pairwise_append.mp h).2.2 m' hm' m List.mem_cons_self
    rw [List.foldl_cons, insert_of_lt hlast, ih (by simpa using h)]
    simp

theorem ofList_of_ordered {o : Object} (h : o.Ordered) : ofList o = o :=
  foldl_insert_of_ordered (o := []) h

theorem get?_eq_some_iff {o : Object} (h : o.Ordered) {name : String} {v : Json} :
    o.get? name = some v ↔ (name, v) ∈ o := by
  refine ⟨mem_of_get?, fun hmem => ?_⟩
  induction o with
  | nil => cases hmem
  | cons m o ih =>
    obtain ⟨hm, ho⟩ := List.pairwise_cons.mp h
    rw [get?]
    rcases List.mem_cons.mp hmem with rfl | hrest
    · exact if_pos rfl
    · have hne : name ≠ m.1 := by
        rintro rfl
        exact String.lt_irrefl m.1 (hm (m.1, v) hrest)
      rw [if_neg hne, ih ho hrest]

/-- Objects in order are the same if the same is found in them under every name. -/
theorem ext_of_ordered {o o' : Object} (h : o.Ordered) (h' : o'.Ordered)
    (hget : ∀ name, o.get? name = o'.get? name) : o = o' := by
  have hnodup : ∀ {o : Object}, o.Ordered → o.Nodup := by
    refine fun ho => List.Pairwise.imp (fun {m m'} hlt heq => ?_) ho
    exact String.lt_irrefl m.1 (by rwa [← heq] at hlt)
  have hperm : o.Perm o' := by
    refine (List.perm_ext_iff_of_nodup (hnodup h) (hnodup h')).mpr fun m => ?_
    rw [← get?_eq_some_iff h, ← get?_eq_some_iff h', hget]
  exact hperm.eq_of_pairwise (fun _ _ _ _ hlt hgt => absurd hgt (String.lt_asymm hlt)) h h'

theorem insert_cons_self (o : Object) (name : String) (v w : Json) :
    insert ((name, v) :: o) name w = (name, w) :: o := by
  rw [insert, if_neg (String.lt_irrefl name), if_pos rfl]

/-- Of two settings of one name the later one counts. -/
theorem insert_insert (o : Object) (name : String) (v w : Json) :
    (o.insert name v).insert name w = o.insert name w := by
  induction o with
  | nil => exact insert_cons_self [] name v w
  | cons m o ih =>
    obtain ⟨key, old⟩ := m
    simp only [insert]
    split
    · exact insert_cons_self _ name v w
    · next hlt =>
      split
      · next heq =>
        subst heq
        exact insert_cons_self o name v w
      · next hne => rw [insert, if_neg hlt, if_neg hne, ih]

end Object

/-! ### Values -/

/-- The objects in a value are in order, and its numbers have the property. -/
inductive Holds (p : Number → Prop) : Json → Prop
  | null : Holds p .null
  | bool (b : Bool) : Holds p (.bool b)
  | number {n : Number} (h : p n) : Holds p (.number n)
  | string (s : String) : Holds p (.string s)
  | array {xs : List Json} (h : ∀ x ∈ xs, Holds p x) : Holds p (.array xs)
  | object {ms : Object} (hordered : ms.Ordered) (h : ∀ m ∈ ms, Holds p m.2) : Holds p (.object ms)

namespace Holds

variable {p : Number → Prop} {o : Object}

theorem members (h : Holds p (.object o)) : o.Ordered ∧ ∀ m ∈ o, Holds p m.2 := by
  cases h with
  | object hordered h => exact ⟨hordered, h⟩

theorem insert (ho : Holds p (.object o)) {v : Json} (hv : Holds p v) (name : String) :
    Holds p (.object (o.insert name v)) := by
  obtain ⟨hordered, hall⟩ := ho.members
  refine .object (Object.ordered_insert hordered name v) fun m hm => ?_
  rcases Object.mem_insert hm with rfl | hm
  · exact hv
  · exact hall m hm

theorem mkObject {ms : List (String × Json)} (h : ∀ m ∈ ms, Holds p m.2) :
    Holds p (Json.mkObject ms) := by
  have hfold : ∀ {ms : List (String × Json)} {o : Object}, (∀ m ∈ ms, Holds p m.2) →
      Holds p (.object o) → Holds p (.object (ms.foldl (fun o m => Object.insert o m.1 m.2) o)) := by
    intro ms
    induction ms with
    | nil => exact fun _ ho => ho
    | cons m ms ih =>
      intro o h ho
      obtain ⟨hm, hms⟩ := List.forall_mem_cons.mp h
      exact ih hms (ho.insert hm m.1)
  exact hfold h (.object List.Pairwise.nil (by simp))

end Holds

/-- All objects in the value are in order, as those of the program are. -/
def InOrder : Json → Prop := Holds fun _ => True

mutual

/-- The numbers in a value. -/
def numbers : Json → List Number
  | .number n => [n]
  | .array xs => numbersOfItems xs
  | .object ms => numbersOfMembers ms
  | _ => []

def numbersOfItems : List Json → List Number
  | [] => []
  | x :: xs => numbers x ++ numbersOfItems xs

def numbersOfMembers : List (String × Json) → List Number
  | [] => []
  | (_, v) :: ms => numbers v ++ numbersOfMembers ms

end

theorem mem_numbersOfItems {n : Number} {xs : List Json} :
    n ∈ numbersOfItems xs ↔ ∃ x ∈ xs, n ∈ numbers x := by
  induction xs with
  | nil => simp [numbersOfItems]
  | cons x xs ih => simp [numbersOfItems, ih]

theorem mem_numbersOfMembers {n : Number} {ms : List (String × Json)} :
    n ∈ numbersOfMembers ms ↔ ∃ m ∈ ms, n ∈ numbers m.2 := by
  induction ms with
  | nil => simp [numbersOfMembers]
  | cons m ms ih => simp [numbersOfMembers, ih]

theorem holds_of_numbers {p : Number → Prop} {v : Json} (h : InOrder v)
    (hnumbers : ∀ n ∈ numbers v, p n) : Holds p v := by
  induction h with
  | null => exact .null
  | bool b => exact .bool b
  | number => exact .number (hnumbers _ (by simp [numbers]))
  | string s => exact .string s
  | array _ ih =>
    exact .array fun x hx => ih x hx fun n hn =>
      hnumbers n (mem_numbersOfItems.mpr ⟨x, hx, hn⟩)
  | object hordered _ ih =>
    exact .object hordered fun m hm => ih m hm fun n hn =>
      hnumbers n (mem_numbersOfMembers.mpr ⟨m, hm, hn⟩)

end SageEditor.Json
