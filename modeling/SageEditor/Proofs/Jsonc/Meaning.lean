/-
What JSON with comments means.

* `isPart_determined`, `isDocument_unique` — no text is a document in two ways;
* `Meaning`, `Tree.meaning` — the meaning of a value as it is written: its numbers are exact, and
  an object is what each name stands for;
* `Tree.stored` — the tree of what is kept in memory of a value, and written back;
* `Survives`, `meaning_stored` — the numbers that mean the same when they are written back.

Design notes: a value in memory has lost the spelling of its numbers, so that its meaning is that
of the text that is written of it.  Two objects mean the same if every name stands for the same in
both, whatever the order of their members, and of members with one name the last one counts.
-/
import Mathlib.Algebra.Order.Field.Rat
import Mathlib.Data.Rat.Cast.Defs
import SageEditor.Proofs.Jsonc.Written

namespace SageEditor.Jsonc

/-! ### One tree -/

theorem lexes_unique {cs : List Char} {ts ts' : List Token} (h : Lexes ts cs)
    (h' : Lexes ts' cs) : ts = ts' := by
  induction h generalizing ts' with
  | nil h => exact ((Lexes.iff_of_none h).mp h').symm
  | cons h _ ih =>
    obtain ⟨us, rfl, hus⟩ := (Lexes.iff_of_some h).mp h'
    rw [ih hus]

/-- A token that a value may begin with. -/
def Token.Begins : Token → Prop
  | .null | .bool _ | .number .. | .string _ | .openBracket | .openBrace => True
  | _ => False

theorem IsPart.begins {v : Tree} {us : List Token} (h : IsPart (.value v) us) :
    ∃ t ts, us = t :: ts ∧ t.Begins := by
  cases h <;> exact ⟨_, _, rfl, trivial⟩

/-- No other token begins a value. -/
theorem IsPart.append_ne {v : Tree} {us : List Token} (h : IsPart (.value v) us) {t : Token}
    (ht : ¬ t.Begins) (r ts : List Token) : us ++ r ≠ t :: ts := by
  obtain ⟨t', ts', rfl, ht'⟩ := h.begins
  intro heq
  obtain rfl : t' = t := (List.cons.inj heq).1
  exact ht ht'

theorem IsPart.head_items {xs : List Tree} {us : List Token} (h : IsPart (.items xs) us)
    (r : List Token) : (us ++ .closeBracket :: r).head? ≠ some .comma := by
  cases h with
  | noItem => simp
  | item hv =>
    intro heq
    obtain ⟨ts, hcomma⟩ := List.head?_eq_some_iff.mp heq
    simp only [List.append_assoc] at hcomma
    exact hv.append_ne id _ ts hcomma

theorem IsPart.head_members {ms : List (String × Tree)} {us : List Token}
    (h : IsPart (.members ms) us) (r : List Token) :
    (us ++ .closeBrace :: r).head? ≠ some .comma := by
  cases h with
  | noMember => simp
  | @member t name _ _ _ _ hname =>
    rintro heq
    obtain rfl : t = .comma := by simpa using heq
    cases hname

/-- A comma is seen at the first token. -/
theorem separator_inj {comma comma' : Bool} {us us' : List Token} (h : us.head? ≠ some .comma)
    (h' : us'.head? ≠ some .comma) (heq : separator comma ++ us = separator comma' ++ us') :
    us = us' := by
  cases comma <;> cases comma'
  · exact heq
  · exact absurd (by rw [show us = .comma :: us' from heq]; rfl) h
  · exact absurd (by rw [show us' = .comma :: us from heq.symm]; rfl) h'
  · exact (List.cons.inj heq).2

/-- What begins with the tokens of a part begins with no other part: a value ends by itself, and
what stands between brackets ends at the closing one. -/
def Determined : Part → List Token → Prop
  | .value v, us => ∀ v' us' r r', IsPart (.value v') us' → us ++ r = us' ++ r' → v = v' ∧ r = r'
  | .items xs, us => ∀ xs' us' r r', IsPart (.items xs') us' →
    us ++ .closeBracket :: r = us' ++ .closeBracket :: r' → xs = xs' ∧ r = r'
  | .members ms, us => ∀ ms' us' r r', IsPart (.members ms') us' →
    us ++ .closeBrace :: r = us' ++ .closeBrace :: r' → ms = ms' ∧ r = r'

/-- A value of one token is determined. -/
theorem determined_scalar {v : Tree} {t : Token}
    (hunique : ∀ w us, IsPart (.value w) (t :: us) → w = v ∧ us = []) :
    Determined (.value v) [t] := by
  rintro v' us' r r' h' heq
  obtain ⟨t', ts, rfl, -⟩ := h'.begins
  obtain ⟨rfl, rfl⟩ := List.cons.inj heq
  obtain ⟨rfl, rfl⟩ := hunique v' ts h'
  exact ⟨rfl, rfl⟩

theorem isPart_determined {part : Part} {us : List Token} (h : IsPart part us) :
    Determined part us := by
  induction h with
  | null => exact determined_scalar (by rintro w us ⟨⟩; exact ⟨rfl, rfl⟩)
  | bool b => exact determined_scalar (by rintro w us ⟨⟩; exact ⟨rfl, rfl⟩)
  | number spelling n => exact determined_scalar (by rintro w us ⟨⟩; exact ⟨rfl, rfl⟩)
  | string s => exact determined_scalar (by rintro w us ⟨⟩; exact ⟨rfl, rfl⟩)
  | array h ih =>
    rintro v' us' r r' h' heq
    cases h' with
    | array h' =>
      obtain ⟨rfl, rfl⟩ := ih _ _ r r' h' (by simpa using heq)
      exact ⟨rfl, rfl⟩
    | _ => simp at heq
  | object h ih =>
    rintro v' us' r r' h' heq
    cases h' with
    | object h' =>
      obtain ⟨rfl, rfl⟩ := ih _ _ r r' h' (by simpa using heq)
      exact ⟨rfl, rfl⟩
    | _ => simp at heq
  | noItem =>
    rintro xs' us' r r' h' heq
    cases h' with
    | noItem => exact ⟨rfl, by simpa using heq⟩
    | item hv =>
      -- No item begins with the closing bracket.
      simp only [List.append_assoc] at heq
      exact absurd heq.symm (hv.append_ne id _ r)
  | item hv hus comma ihv ihus =>
    rintro xs' us' r r' h' heq
    cases h' with
    | noItem =>
      simp only [List.append_assoc] at heq
      exact absurd heq (hv.append_ne id _ r')
    | item hv' hus' comma' =>
      -- The first items agree, and after them both have a comma or neither.
      simp only [List.append_assoc] at heq
      obtain ⟨rfl, hrest⟩ := ihv _ _ _ _ hv' heq
      obtain ⟨rfl, rfl⟩ := ihus _ _ r r' hus'
        (separator_inj (hus.head_items r) (hus'.head_items r') hrest)
      exact ⟨rfl, rfl⟩
  | noMember =>
    rintro ms' us' r r' h' heq
    cases h' with
    | noMember => exact ⟨rfl, by simpa using heq⟩
    | @member t _ _ _ _ _ hname =>
      -- The closing brace is not a name.
      obtain rfl : .closeBrace = t := (List.cons.inj heq).1
      cases hname
  | member hname hv hus comma ihv ihus =>
    rintro ms' us' r r' h' heq
    cases h' with
    | noMember =>
      obtain ⟨rfl, -⟩ := List.cons.inj heq
      cases hname
    | member hname' hv' hus' comma' =>
      simp only [List.cons_append, List.append_assoc] at heq
      obtain ⟨rfl, hcolon⟩ := List.cons.inj heq
      obtain rfl := Option.some.inj (hname.symm.trans hname')
      obtain ⟨rfl, hrest⟩ := ihv _ _ _ _ hv' (List.cons.inj (List.cons.inj heq).2).2
      obtain ⟨rfl, rfl⟩ := ihus _ _ r r' hus'
        (separator_inj (hus.head_members r) (hus'.head_members r') hrest)
      exact ⟨rfl, rfl⟩

/-- A text is a document with one tree at most. -/
theorem isDocument_unique {cs : List Char} {v v' : Tree} (h : IsDocument cs v)
    (h' : IsDocument cs v') : v = v' := by
  obtain ⟨ts, hts, hpart⟩ := h
  obtain ⟨ts', hts', hpart'⟩ := h'
  obtain rfl := lexes_unique hts hts'
  exact (isPart_determined hpart v' ts [] [] hpart' rfl).1

/-! ### Numbers -/

/-- The exact value of a numeral. -/
def numeralValue (n : Json.Numeral) : ℚ :=
  let digits := n.whole ++ n.fraction.getD []
  let exponent : ℤ := match n.exponent with
    | none => 0
    | some e => (if e.minus then -1 else 1) * (Nat.ofDigitChars 10 e.digits 0 : ℕ)
  (if n.minus then -1 else 1) * (Nat.ofDigitChars 10 digits 0 : ℕ) *
    10 ^ (exponent - (n.fraction.getD []).length)

/-- A numeral whose number is written back with the same value. -/
def Survives (n : Json.Numeral) : Prop :=
  ∃ x, n.number = .ok x ∧ numeralValue x.numeral = numeralValue n

/-- A numeral of a whole number of 64 bits: a sign and digits that are not too many. -/
def IsWholeNumeral (n : Json.Numeral) : Prop :=
  n.fraction = none ∧ n.exponent = none ∧
    let digits := Nat.ofDigitChars 10 n.whole 0
    if n.minus then 0 < digits ∧ digits ≤ Json.Numeral.maxNegative
    else digits ≤ Json.Numeral.maxSignificand

/-- Whole numbers of 64 bits are written back as they are. -/
theorem survives_of_isWholeNumeral {n : Json.Numeral} (h : IsWholeNumeral n) : Survives n := by
  obtain ⟨minus, whole, fraction, exponent⟩ := n
  obtain ⟨rfl, rfl, hrange⟩ : fraction = none ∧ exponent = none ∧ _ := h
  have hdigits : Nat.ofDigitChars 10 (Nat.toDigits 10 (Nat.ofDigitChars 10 whole 0)) 0 =
      Nat.ofDigitChars 10 whole 0 := Nat.ofDigitChars_ten_toDigits
  cases minus with
  | false =>
    have hfits : Nat.ofDigitChars 10 whole 0 ≤ Json.Numeral.maxSignificand := hrange
    refine ⟨.natural (Nat.ofDigitChars 10 whole 0), ?_, ?_⟩
    · simp [Json.Numeral.number, Json.Numeral.gather_eq hfits]
    · rw [Json.Number.numeral_eq (Json.Number.numeralText_natural _)]
      simp [numeralValue, Json.Numeral.ofWhole, hdigits]
  | true =>
    obtain ⟨hpos, hle⟩ : 0 < Nat.ofDigitChars 10 whole 0 ∧
      Nat.ofDigitChars 10 whole 0 ≤ Json.Numeral.maxNegative := hrange
    have hfits := le_trans hle (by decide : Json.Numeral.maxNegative ≤ Json.Numeral.maxSignificand)
    have hkept : ¬ (Nat.ofDigitChars 10 whole 0 = 0 ∨
      Json.Numeral.maxNegative < Nat.ofDigitChars 10 whole 0) := by omega
    refine ⟨.negative (Nat.ofDigitChars 10 whole 0), ?_, ?_⟩
    · simp [Json.Numeral.number, Json.Numeral.gather_eq hfits, hkept]
    · rw [Json.Number.numeral_eq (Json.Number.numeralText_negative _)]
      simp [numeralValue, Json.Numeral.ofWhole, hdigits]

/-! ### Meanings -/

/-- What a value means. -/
inductive Meaning where
  | null
  | bool (b : Bool)
  | number (q : ℚ)
  | string (s : String)
  | array (items : List Meaning)
  /-- The object in which names stand for meanings. -/
  | object (member? : String → Option Meaning)

namespace Tree

mutual

/-- The meaning of a value as it is written. -/
def meaning : Tree → Meaning
  | null => .null
  | bool b => .bool b
  | number _ n => .number (numeralValue n)
  | string s => .string s
  | array xs => .array (meanings xs)
  | object ms => .object (memberMeaning? ms)

def meanings : List Tree → List Meaning
  | [] => []
  | x :: xs => x.meaning :: meanings xs

/-- What the last member of a name means. -/
def memberMeaning? : List (String × Tree) → String → Option Meaning
  | [], _ => none
  | (name, v) :: ms, key =>
    (memberMeaning? ms key).or (if key = name then some v.meaning else none)

end

mutual

/-- The tree of what is written back of a value. -/
def stored : Tree → Tree
  | null => null
  | bool b => bool b
  | number spelling n => ofJson (Reading.numberValue spelling n)
  | string s => string s
  | array xs => array (storedItems xs)
  | object ms => object (storedMembers ms)

def storedItems : List Tree → List Tree
  | [] => []
  | x :: xs => x.stored :: storedItems xs

def storedMembers : List (String × Tree) → List (String × Tree)
  | [] => []
  | (name, v) :: ms => (name, v.stored) :: storedMembers ms

end

mutual

/-- The numerals in a tree. -/
def numerals : Tree → List Json.Numeral
  | number _ n => [n]
  | array xs => numeralsOfItems xs
  | object ms => numeralsOfMembers ms
  | _ => []

def numeralsOfItems : List Tree → List Json.Numeral
  | [] => []
  | x :: xs => x.numerals ++ numeralsOfItems xs

def numeralsOfMembers : List (String × Tree) → List Json.Numeral
  | [] => []
  | (_, v) :: ms => v.numerals ++ numeralsOfMembers ms

end

end Tree

/-! ### What is written back -/

open Json.Object (Ordered)

/-- In an object in order, what is found is what the name means. -/
theorem memberMeaning?_ofMembers {o : Json.Object} (h : Ordered o) (key : String) :
    Tree.memberMeaning? (Tree.ofMembers o) key =
      (o.get? key).map fun v => (Tree.ofJson v).meaning := by
  induction o with
  | nil => rfl
  | cons m o ih =>
    obtain ⟨name, v⟩ := m
    obtain ⟨hname, ho⟩ := List.pairwise_cons.mp h
    rw [Tree.ofMembers, Tree.memberMeaning?, ih ho, Json.Object.get?]
    split
    · next heq =>
      -- The names behind the first one are greater.
      have hnone : Json.Object.get? o key = none := by
        cases hget : Json.Object.get? o key with
        | none => rfl
        | some w =>
          have hlt := hname _ (Json.Object.mem_of_get? hget)
          rw [heq] at hlt
          exact absurd hlt (String.lt_irrefl name)
      rw [hnone]
      rfl
    · simp

mutual

/-- What a value is read as means the same as what is written back of it. -/
theorem meaning_ofJson_value : ∀ v : Tree, (Tree.ofJson v.value).meaning = v.stored.meaning
  | .null => rfl
  | .bool _ => rfl
  | .number _ _ => rfl
  | .string _ => rfl
  | .array xs => by
    rw [Tree.value, Tree.ofJson, Tree.meaning, meanings_ofItems_values xs]
    rfl
  | .object ms => by
    have hordered := Json.Object.ordered_ofList (Tree.memberValues ms)
    rw [Tree.value, Json.mkObject, Tree.ofJson, Tree.meaning, Tree.stored, Tree.meaning]
    congr 1
    funext key
    rw [memberMeaning?_ofMembers hordered, Json.Object.ofList,
      map_get?_foldl_memberValues ms [] key]
    simp [Json.Object.get?]

theorem meanings_ofItems_values : ∀ xs : List Tree,
    Tree.meanings (Tree.ofItems (Tree.values xs)) = Tree.meanings (Tree.storedItems xs)
  | [] => rfl
  | x :: xs => by
    rw [Tree.values, Tree.ofItems, Tree.meanings, meaning_ofJson_value x,
      meanings_ofItems_values xs]
    rfl

/-- Of the members that are set one after the other, the last one of a name is what it means. -/
theorem map_get?_foldl_memberValues : ∀ (ms : List (String × Tree)) (o : Json.Object) (key : String),
    (Json.Object.get? ((Tree.memberValues ms).foldl (fun o m => o.insert m.1 m.2) o) key).map
        (fun v => (Tree.ofJson v).meaning) =
      (Tree.memberMeaning? (Tree.storedMembers ms) key).or
        ((o.get? key).map fun v => (Tree.ofJson v).meaning)
  | [], _, _ => rfl
  | (name, v) :: ms, o, key => by
    rw [Tree.memberValues, List.foldl_cons, map_get?_foldl_memberValues ms,
      Json.Object.get?_insert, Tree.storedMembers, Tree.memberMeaning?, Option.or_assoc]
    split
    · rw [Option.map_some, meaning_ofJson_value v]
      rfl
    · rfl

end

mutual

/-- A value whose numbers survive means the same when it is written back. -/
theorem meaning_stored : ∀ v : Tree, (∀ n ∈ v.numerals, Survives n) → v.stored.meaning = v.meaning
  | .null, _ => rfl
  | .bool _, _ => rfl
  | .number spelling n, h => by
    obtain ⟨x, hx, hvalue⟩ := h n (by simp [Tree.numerals])
    rw [Tree.stored, Reading.numberValue, hx, Tree.meaning, ← hvalue]
    rfl
  | .string _, _ => rfl
  | .array xs, h => by
    rw [Tree.stored, Tree.meaning, Tree.meaning, meanings_storedItems xs h]
  | .object ms, h => by
    rw [Tree.stored, Tree.meaning, Tree.meaning, memberMeaning?_storedMembers ms h]

theorem meanings_storedItems : ∀ xs : List Tree, (∀ n ∈ Tree.numeralsOfItems xs, Survives n) →
    Tree.meanings (Tree.storedItems xs) = Tree.meanings xs
  | [], _ => rfl
  | x :: xs, h => by
    obtain ⟨hx, hxs⟩ := List.forall_mem_append.mp h
    rw [Tree.storedItems, Tree.meanings, Tree.meanings, meaning_stored x hx,
      meanings_storedItems xs hxs]

theorem memberMeaning?_storedMembers : ∀ ms : List (String × Tree),
    (∀ n ∈ Tree.numeralsOfMembers ms, Survives n) →
    Tree.memberMeaning? (Tree.storedMembers ms) = Tree.memberMeaning? ms
  | [], _ => rfl
  | (name, v) :: ms, h => by
    obtain ⟨hv, hms⟩ := List.forall_mem_append.mp h
    funext key
    rw [Tree.storedMembers, Tree.memberMeaning?, Tree.memberMeaning?, meaning_stored v hv,
      memberMeaning?_storedMembers ms hms]

end

end SageEditor.Jsonc
