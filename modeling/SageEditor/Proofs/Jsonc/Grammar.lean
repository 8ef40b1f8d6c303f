/-
The grammar of JSON with comments.

* `Tree` — a value as it is written, with every number and every member that is in the text;
* `IsPart` — the token sequences of a value, and of what stands between brackets;
* `Lexes` — the tokens of a text;
* `parse_eq_ok_iff` — a text is read as a value exactly if its tokens are those of a tree that has
  this value.

Design notes: what a state of the reader still asks of the tokens that follow is said by
`Demands`, which speaks of the grammar alone.  One token leads from what one state demands to
what the next one demands, in both directions, and an induction over the text does the rest.
-/
import SageEditor.Jsonc.Reader
import SageEditor.Proofs.Jsonc.Token

namespace SageEditor.Jsonc

/-! ### Trees -/

/-- A value as it is written. -/
inductive Tree where
  | null
  | bool (b : Bool)
  | number (spelling : String) (n : Json.Numeral)
  | string (s : String)
  | array (items : List Tree)
  | object (members : List (String × Tree))

namespace Tree

mutual

/-- The value of a tree: of several members with one name the last one counts. -/
def value : Tree → Json
  | null => .null
  | bool b => .bool b
  | number spelling n => Reading.numberValue spelling n
  | string s => .string s
  | array xs => .array (values xs)
  | object ms => Json.mkObject (memberValues ms)

def values : List Tree → List Json
  | [] => []
  | x :: xs => x.value :: values xs

def memberValues : List (String × Tree) → List (String × Json)
  | [] => []
  | (name, v) :: ms => (name, v.value) :: memberValues ms

end

end Tree

/-! ### The grammar -/

/-- The name that a token gives to a member, if it can. -/
def Token.name? : Token → Option String
  | .string s => some s
  | .word s => some s
  | .number spelling _ => some spelling
  | _ => none

/-- The comma behind an item or a member may be left out. -/
def separator (comma : Bool) : List Token :=
  if comma then [.comma] else []

/-- What a token sequence is: a value, or the items or the members between two brackets. -/
inductive Part where
  | value (v : Tree)
  | items (xs : List Tree)
  | members (ms : List (String × Tree))

/-- The token sequences of a part. -/
inductive IsPart : Part → List Token → Prop
  | null : IsPart (.value .null) [.null]
  | bool (b : Bool) : IsPart (.value (.bool b)) [.bool b]
  | number (spelling : String) (n : Json.Numeral) :
    IsPart (.value (.number spelling n)) [.number spelling n]
  | string (s : String) : IsPart (.value (.string s)) [.string s]
  | array {xs : List Tree} {us : List Token} (h : IsPart (.items xs) us) :
    IsPart (.value (.array xs)) (.openBracket :: (us ++ [.closeBracket]))
  | object {ms : List (String × Tree)} {us : List Token} (h : IsPart (.members ms) us) :
    IsPart (.value (.object ms)) (.openBrace :: (us ++ [.closeBrace]))
  | noItem : IsPart (.items []) []
  | item {v : Tree} {vs : List Tree} {ts us : List Token} (h : IsPart (.value v) ts)
    (hus : IsPart (.items vs) us) (comma : Bool) :
    IsPart (.items (v :: vs)) (ts ++ (separator comma ++ us))
  | noMember : IsPart (.members []) []
  | member {t : Token} {name : String} {v : Tree} {ms : List (String × Tree)}
    {ts us : List Token} (hname : t.name? = some name) (h : IsPart (.value v) ts)
    (hus : IsPart (.members ms) us) (comma : Bool) :
    IsPart (.members ((name, v) :: ms)) (t :: .colon :: (ts ++ (separator comma ++ us)))

/-- The tokens of a text. -/
inductive Lexes : List Token → List Char → Prop
  | nil {cs : List Char} (h : Scan.next cs = .ok none) : Lexes [] cs
  | cons {t : Token} {ts : List Token} {cs rest : List Char} {behind : ℕ}
    (h : Scan.next cs = .ok (some (behind, t, rest))) (hts : Lexes ts rest) : Lexes (t :: ts) cs

namespace Lexes

variable {ts : List Token} {cs : List Char}

theorem not_of_error {e : Failure} (h : Scan.next cs = .error e) : ¬ Lexes ts cs := by
  intro hts
  cases hts with
  | nil h' => simp [h] at h'
  | cons h' => simp [h] at h'

theorem iff_of_none (h : Scan.next cs = .ok none) : Lexes ts cs ↔ ts = [] := by
  constructor
  · intro hts
    cases hts with
    | nil => rfl
    | cons h' => simp [h] at h'
  · rintro rfl
    exact .nil h

theorem iff_of_some {behind : ℕ} {t : Token} {rest : List Char}
    (h : Scan.next cs = .ok (some (behind, t, rest))) :
    Lexes ts cs ↔ ∃ us, ts = t :: us ∧ Lexes us rest := by
  constructor
  · intro hts
    cases hts with
    | nil h' => simp [h] at h'
    | cons h' hts =>
      obtain ⟨rfl, rfl, rfl⟩ : behind = _ ∧ t = _ ∧ rest = _ := by simpa [h] using h'
      exact ⟨_, rfl, hts⟩
  · rintro ⟨us, rfl, hus⟩
    exact .cons h hus

end Lexes

/-! ### What a state demands -/

/-- The items up to the end of a list, of which `items` have been read, in reverse; `close` is what
is demanded of the list and the tokens behind it. -/
def EndsArray (close : Json → List Token → Prop) (items : List Json) (allowed : Bool)
    (ts : List Token) : Prop :=
  ∃ comma xs us rest, (comma = true → allowed = true) ∧
    ts = separator comma ++ (us ++ .closeBracket :: rest) ∧ IsPart (.items xs) us ∧
    close (.array (items.reverse ++ Tree.values xs)) rest

/-- An object with one more member. -/
def insertMember (o : Json.Object) (m : String × Json) : Json.Object := o.insert m.1 m.2

/-- The members up to the end of an object. -/
def EndsObject (close : Json → List Token → Prop) (members : Json.Object) (allowed : Bool)
    (ts : List Token) : Prop :=
  ∃ comma ms us rest, (comma = true → allowed = true) ∧
    ts = separator comma ++ (us ++ .closeBrace :: rest) ∧ IsPart (.members ms) us ∧
    close (.object ((Tree.memberValues ms).foldl insertMember members)) rest

/-- What the brackets around a value demand of the tokens behind it, if the whole text has the
value `o`. -/
def Closes (o : Option Json) : List Outer → Json → List Token → Prop
  | [], v, ts => ts = [] ∧ o = some v
  | .array _ items :: outer, v, ts => EndsArray (Closes o outer) (v :: items) true ts
  | .object _ members name :: outer, v, ts =>
    EndsObject (Closes o outer) (members.insert name v) true ts

/-- What is demanded where a value is awaited. -/
def Awaits (o : Option Json) (outer : List Outer) (ts : List Token) : Prop :=
  ∃ v us rest, ts = us ++ rest ∧ IsPart (.value v) us ∧ Closes o outer v.value rest

/-- What a state demands of the tokens that follow. -/
def Demands (o : Option Json) (r : Reading) (ts : List Token) : Prop :=
  match r.stage with
  | .root => (ts = [] ∧ o = none) ∨ Awaits o r.outer ts
  | .array _ items comma => EndsArray (Closes o r.outer) items comma ts
  | .object _ members comma => EndsObject (Closes o r.outer) members comma ts
  | .colon opening members name =>
    ∃ us, ts = .colon :: us ∧ Awaits o (.object opening members name :: r.outer) us
  | .member opening members name => Awaits o (.object opening members name :: r.outer) ts
  | .finished v => ts = [] ∧ o = some v

section Demands

variable {o : Option Json} {outer : List Outer} {t : Token} {ts : List Token}
  {close : Json → List Token → Prop} {items : List Json} {members : Json.Object} {allowed : Bool}

theorem demands_deliver (v : Json) :
    Demands o (Reading.deliver v outer) ts ↔ Closes o outer v ts := by
  cases outer with
  | nil => rfl
  | cons bracket outer => cases bracket <;> rfl

/-- The rest of a list is a comma before more of it, its end, or an item and what may follow. -/
theorem endsArray_cons :
    EndsArray close items allowed (t :: ts) ↔
      (t = .comma ∧ allowed = true ∧ EndsArray close items false ts) ∨
      (t = .closeBracket ∧ close (.array items.reverse) ts) ∨
      ∃ v us rest, t :: ts = us ++ rest ∧ IsPart (.value v) us ∧
        EndsArray close (v.value :: items) true rest := by
  constructor
  · rintro ⟨comma, xs, us, rest, hallowed, hts, hus, hclose⟩
    cases comma with
    | true =>
      obtain ⟨rfl, rfl⟩ := List.cons.inj hts
      exact .inl ⟨rfl, hallowed rfl, false, xs, us, rest, by simp, rfl, hus, hclose⟩
    | false =>
      rw [separator, if_neg (by simp), List.nil_append] at hts
      cases hus with
      | noItem =>
        obtain ⟨rfl, rfl⟩ := List.cons.inj hts
        refine .inr (.inl ⟨rfl, ?_⟩)
        simpa [Tree.values] using hclose
      | @item v vs vts us hv hus comma =>
        refine .inr (.inr ⟨v, vts, separator comma ++ (us ++ .closeBracket :: rest), ?_, hv, ?_⟩)
        · simpa using hts
        · refine ⟨comma, vs, us, rest, by simp, rfl, hus, ?_⟩
          simpa [Tree.values] using hclose
  · rintro (⟨rfl, rfl, comma, xs, us, rest, hcomma, rfl, hus, hclose⟩ | ⟨rfl, hclose⟩ |
      ⟨v, vts, tail, hts, hv, comma, xs, us, rest, -, rfl, hus, hclose⟩)
    · obtain rfl : comma = false := by simpa using hcomma
      exact ⟨true, xs, us, rest, by simp, rfl, hus, hclose⟩
    · exact ⟨false, [], [], ts, by simp, rfl, .noItem, by simpa [Tree.values] using hclose⟩
    · refine ⟨false, v :: xs, _, rest, by simp, ?_, .item hv hus comma, ?_⟩
      · rw [hts]
        simp [separator]
      · simpa [Tree.values] using hclose

/-- The rest of an object is a comma before more of it, its end, or a member whose value follows. -/
theorem endsObject_cons :
    EndsObject close members allowed (t :: ts) ↔
      (t = .comma ∧ allowed = true ∧ EndsObject close members false ts) ∨
      (t = .closeBrace ∧ close (.object members) ts) ∨
      ∃ name us, t.name? = some name ∧ ts = .colon :: us ∧ ∃ v vts rest, us = vts ++ rest ∧
        IsPart (.value v) vts ∧ EndsObject close (members.insert name v.value) true rest := by
  constructor
  · rintro ⟨comma, ms, us, rest, hallowed, hts, hus, hclose⟩
    cases comma with
    | true =>
      obtain ⟨rfl, rfl⟩ := List.cons.inj hts
      exact .inl ⟨rfl, hallowed rfl, false, ms, us, rest, by simp, rfl, hus, hclose⟩
    | false =>
      rw [separator, if_neg (by simp), List.nil_append] at hts
      cases hus with
      | noMember =>
        obtain ⟨rfl, rfl⟩ := List.cons.inj hts
        exact .inr (.inl ⟨rfl, hclose⟩)
      | @member t' name v ms vts us hname hv hus comma =>
        obtain ⟨rfl, rfl⟩ := List.cons.inj hts
        refine .inr (.inr ⟨name, _, hname, rfl, v, vts,
          separator comma ++ (us ++ .closeBrace :: rest), by simp, hv, ?_⟩)
        exact ⟨comma, ms, us, rest, by simp, rfl, hus, hclose⟩
  · rintro (⟨rfl, rfl, comma, ms, us, rest, hcomma, rfl, hus, hclose⟩ | ⟨rfl, hclose⟩ |
      ⟨name, us, hname, rfl, v, vts, tail, rfl, hv, comma, ms, us', rest, -, rfl, hus, hclose⟩)
    · obtain rfl : comma = false := by simpa using hcomma
      exact ⟨true, ms, us, rest, by simp, rfl, hus, hclose⟩
    · exact ⟨false, [], [], ts, by simp, rfl, .noMember, hclose⟩
    · refine ⟨false, (name, v) :: ms, _, rest, by simp, ?_, .member hname hv hus comma, hclose⟩
      simp [separator]

/-- A scalar is delivered at once. -/
theorem awaits_scalar {v : Tree} (hv : IsPart (.value v) [t])
    (hunique : ∀ w us, IsPart (.value w) (t :: us) → w = v ∧ us = []) :
    Awaits o outer (t :: ts) ↔ Demands o (Reading.deliver v.value outer) ts := by
  rw [demands_deliver]
  constructor
  · rintro ⟨w, us, rest, hts, hw, hclose⟩
    cases us with
    | nil => cases hw
    | cons t' us =>
      obtain ⟨rfl, rfl⟩ := List.cons.inj hts
      obtain ⟨rfl, rfl⟩ := hunique w us hw
      exact hclose
  · exact fun hclose => ⟨v, [t], ts, rfl, hv, hclose⟩

theorem awaits_array :
    Awaits o outer (.openBracket :: ts) ↔ EndsArray (Closes o outer) [] false ts := by
  constructor
  · rintro ⟨w, us, rest, hts, hw, hclose⟩
    cases hw with
    | @array xs us hus =>
      obtain ⟨-, rfl⟩ := List.cons.inj hts
      refine ⟨false, xs, us, rest, by simp, by simp [separator], hus, ?_⟩
      simpa [Tree.value] using hclose
    | _ => simp at hts
  · rintro ⟨comma, xs, us, rest, hcomma, rfl, hus, hclose⟩
    obtain rfl : comma = false := by simpa using hcomma
    refine ⟨.array xs, .openBracket :: (us ++ [.closeBracket]), rest, ?_, .array hus, ?_⟩
    · simp [separator]
    · simpa [Tree.value] using hclose

theorem awaits_object :
    Awaits o outer (.openBrace :: ts) ↔ EndsObject (Closes o outer) [] false ts := by
  constructor
  · rintro ⟨w, us, rest, hts, hw, hclose⟩
    cases hw with
    | @object ms us hus =>
      obtain ⟨-, rfl⟩ := List.cons.inj hts
      exact ⟨false, ms, us, rest, by simp, by simp [separator], hus, hclose⟩
    | _ => simp at hts
  · rintro ⟨comma, ms, us, rest, hcomma, rfl, hus, hclose⟩
    obtain rfl : comma = false := by simpa using hcomma
    refine ⟨.object ms, .openBrace :: (us ++ [.closeBrace]), rest, ?_, .object hus, hclose⟩
    simp [separator]

/-- Where a value is awaited, its first token begins it. -/
theorem awaits_cons (behind : ℕ) :
    Awaits o outer (t :: ts) ↔
      ∃ r, Reading.beginValue outer behind t = .ok r ∧ Demands o r ts := by
  have hno : (∀ w us, ¬ IsPart (.value w) (t :: us)) → ¬ Awaits o outer (t :: ts) := by
    rintro h ⟨w, us, rest, hts, hw, -⟩
    cases us with
    | nil => cases hw
    | cons t' us =>
      obtain ⟨rfl, rfl⟩ := List.cons.inj hts
      exact h w us hw
  cases t with
  | null =>
    rw [awaits_scalar .null (by rintro w us ⟨⟩; exact ⟨rfl, rfl⟩)]
    simp [Reading.beginValue, Tree.value]
  | bool b =>
    rw [awaits_scalar (.bool b) (by rintro w us ⟨⟩; exact ⟨rfl, rfl⟩)]
    simp [Reading.beginValue, Tree.value]
  | string s =>
    rw [awaits_scalar (.string s) (by rintro w us ⟨⟩; exact ⟨rfl, rfl⟩)]
    simp [Reading.beginValue, Tree.value]
  | number spelling n =>
    rw [awaits_scalar (.number spelling n) (by rintro w us ⟨⟩; exact ⟨rfl, rfl⟩)]
    simp [Reading.beginValue, Tree.value]
  | openBracket =>
    rw [awaits_array]
    simp [Reading.beginValue, Demands]
  | openBrace =>
    rw [awaits_object]
    simp [Reading.beginValue, Demands]
  | _ =>
    have hnone := hno (by rintro w us ⟨⟩)
    simp [Reading.beginValue, hnone]

/-- In a list, whatever is neither a comma nor the end begins an item. -/
theorem demands_array (opening behind : ℕ) (items : List Json) (comma : Bool) :
    Demands o ⟨.array opening items comma, outer⟩ (t :: ts) ↔
      (t = .comma ∧ comma = true ∧ Demands o ⟨.array opening items false, outer⟩ ts) ∨
      (t = .closeBracket ∧ Closes o outer (.array items.reverse) ts) ∨
      ∃ r, Reading.beginValue (.array opening items :: outer) behind t = .ok r ∧
        Demands o r ts := by
  rw [← awaits_cons]
  exact endsArray_cons

/-- In an object, whatever is neither a comma nor the end names a member. -/
theorem demands_object (opening : ℕ) (members : Json.Object) (comma : Bool) :
    Demands o ⟨.object opening members comma, outer⟩ (t :: ts) ↔
      (t = .comma ∧ comma = true ∧ Demands o ⟨.object opening members false, outer⟩ ts) ∨
      (t = .closeBrace ∧ Closes o outer (.object members) ts) ∨
      ∃ name, t.name? = some name ∧ Demands o ⟨.colon opening members name, outer⟩ ts := by
  refine endsObject_cons.trans (or_congr Iff.rfl (or_congr Iff.rfl ?_))
  constructor
  · rintro ⟨name, us, hname, h⟩
    exact ⟨name, hname, us, h⟩
  · rintro ⟨name, hname, us, h⟩
    exact ⟨name, us, hname, h⟩

/-- **One token.**  What a state demands is what the next state demands of the further tokens. -/
theorem demands_step (r : Reading) (behind : ℕ) :
    Demands o r (t :: ts) ↔ ∃ r', r.step behind t = .ok r' ∧ Demands o r' ts := by
  obtain ⟨stage, outer⟩ := r
  cases stage with
  | root =>
    have hbegin : Reading.step ⟨.root, outer⟩ behind t = Reading.beginValue outer behind t := rfl
    have hroot : Demands o ⟨.root, outer⟩ (t :: ts) ↔ Awaits o outer (t :: ts) := by
      simp [Demands]
    rw [hroot, hbegin, awaits_cons behind]
  | array opening items comma =>
    rw [demands_array opening behind]
    cases t with
    | comma => cases comma <;> simp [Reading.step, Reading.beginValue]
    | closeBracket => simp [Reading.step, Reading.beginValue, demands_deliver]
    | _ => simp [Reading.step]
  | object opening members comma =>
    rw [demands_object]
    cases t with
    | comma => cases comma <;> simp [Reading.step, Token.name?]
    | closeBrace => simp [Reading.step, Token.name?, demands_deliver]
    | _ => simp [Reading.step, Token.name?]
  | colon opening members name =>
    have hcolon : Demands o ⟨.colon opening members name, outer⟩ (t :: ts) ↔
        t = .colon ∧ Demands o ⟨.member opening members name, outer⟩ ts := by
      simp [Demands]
    rw [hcolon]
    cases t <;> simp [Reading.step]
  | member opening members name =>
    exact awaits_cons behind
  | finished v => simp [Demands, Reading.step]

/-- At the end of the text a state demands nothing more. -/
theorem demands_nil (r : Reading) : Demands o r [] ↔ r.finish = .ok o := by
  have hno : ∀ outer, ¬ Awaits o outer [] := by
    rintro outer ⟨v, us, rest, hts, hus, -⟩
    obtain ⟨rfl, -⟩ := List.append_eq_nil_iff.mp hts.symm
    cases hus
  obtain ⟨stage, outer⟩ := r
  cases stage with
  | root => simp [Demands, Reading.finish, hno, eq_comm]
  | array => simp [Demands, Reading.finish, EndsArray]
  | object => simp [Demands, Reading.finish, EndsObject]
  | colon => simp [Demands, Reading.finish]
  | member => simp [Demands, Reading.finish, hno]
  | finished v => simp [Demands, Reading.finish, eq_comm]

end Demands

/-! ### Reading a text -/

/-- A whole run: the tokens of the text are what the state demands. -/
theorem run_eq_ok_iff {o : Option Json} (r : Reading) (cs : List Char) :
    r.run cs = .ok o ↔ ∃ ts, Lexes ts cs ∧ Demands o r ts := by
  -- A token has any number of characters, so the induction is on the length of the text.
  induction hlength : cs.length using Nat.strong_induction_on generalizing r cs with
  | _ n ih =>
    subst hlength
    rw [Reading.run]
    cases hnext : Scan.next cs with
    | error e => simp [Lexes.not_of_error hnext]
    | ok found =>
      cases found with
      | none => simp only [Lexes.iff_of_none hnext, exists_eq_left, demands_nil]
      | some found =>
        obtain ⟨behind, t, rest⟩ := found
        have hlt := Scan.length_lt_of_next hnext
        have hlexes : (∃ ts, Lexes ts cs ∧ Demands o r ts) ↔
            ∃ ts, Lexes ts rest ∧ Demands o r (t :: ts) := by
          simp only [Lexes.iff_of_some hnext]
          constructor
          · rintro ⟨_, ⟨us, rfl, hus⟩, h⟩
            exact ⟨us, hus, h⟩
          · rintro ⟨us, hus, h⟩
            exact ⟨_, ⟨us, rfl, hus⟩, h⟩
        rw [hlexes]
        simp only [demands_step r behind]
        cases hstep : r.step behind t with
        | error e => simp
        | ok r' =>
          simp only [dif_pos hlt, ih _ hlt r' rest rfl, Except.ok.injEq, exists_eq_left']

/-- A text with a tree, which has a value. -/
def IsDocument (cs : List Char) (v : Tree) : Prop :=
  ∃ ts, Lexes ts cs ∧ IsPart (.value v) ts

/-- **Reading JSON with comments.**  A text is read as a value exactly if it is the text of a tree
with this value. -/
theorem parse_eq_ok_some_iff {text : String} {j : Json} :
    parse text = .ok (some j) ↔ ∃ v, IsDocument text.toList v ∧ v.value = j := by
  have hstart : ∀ ts, Demands (some j) Reading.start ts ↔ ∃ v, IsPart (.value v) ts ∧ v.value = j := by
    intro ts
    simp only [Demands, Reading.start, Awaits, Closes]
    constructor
    · rintro (⟨-, h⟩ | ⟨v, us, rest, rfl, hv, rfl, h⟩)
      · cases h
      · exact ⟨v, by simpa using hv, (Option.some.inj h).symm⟩
    · rintro ⟨v, hv, rfl⟩
      exact .inr ⟨v, ts, [], by simp, hv, rfl, rfl⟩
  have hparse : parse text = .ok (some j) ↔ Reading.start.run text.toList = .ok (some j) := by
    rw [parse]
    cases Reading.start.run text.toList <;> simp [Except.mapError]
  rw [hparse, run_eq_ok_iff]
  simp only [hstart]
  constructor
  · rintro ⟨ts, hts, v, hv, rfl⟩
    exact ⟨v, ⟨ts, hts, hv⟩, rfl⟩
  · rintro ⟨v, ⟨ts, hts, hv⟩, rfl⟩
    exact ⟨ts, hts, v, hv, rfl⟩

end SageEditor.Jsonc
