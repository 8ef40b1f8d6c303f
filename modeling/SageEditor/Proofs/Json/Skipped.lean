/-
Values that are stepped over.

* `IsJson` — the token sequences that are values in the grammar of JSON, nested as deep as they
  may be, with numbers of any size and surrogates that need no partner;
* `skip_of_isJson` — all of them are stepped over, up to where they end.

Design notes: one inductive predicate speaks of a value and of what may stand between brackets,
so that the induction over it is also the induction over the open brackets that the machine keeps.
Every token costs the machine at most two steps, which is what bounds its fuel.
-/
import SageEditor.Proofs.Json.Grammar
import SageEditor.Proofs.Json.Numeral

namespace SageEditor.Json

open Read

/-! ### The grammar of JSON -/

/-- The text between the quotes of a string, in which surrogates need no partner. -/
inductive StringBody : List Char → Prop
  | nil : StringBody []
  | plain {c : Char} {body : List Char} (hquote : c ≠ '"') (hslash : c ≠ '\\')
    (hcontrol : ¬ c < ' ') : StringBody body → StringBody (c :: body)
  | escape {c d : Char} {body : List Char} (hd : plainEscape? c = some d) :
    StringBody body → StringBody ('\\' :: c :: body)
  | unicode {a b c d : Char} {code : ℕ} {body : List Char}
    (hcode : hexValues? a b c d = some code) :
    StringBody body → StringBody ('\\' :: 'u' :: a :: b :: c :: d :: body)

/-- The tokens that are values by themselves. -/
inductive Token.IsScalar : Token → Prop
  | null : (atom ['n', 'u', 'l', 'l']).IsScalar
  | true : (atom ['t', 'r', 'u', 'e']).IsScalar
  | false : (atom ['f', 'a', 'l', 's', 'e']).IsScalar
  | number {n : Numeral} {cs : List Char} (h : NumeralText n cs) : (atom cs).IsScalar
  | string {body : List Char} (h : StringBody body) : (string body).IsScalar

/-- What a token sequence is a part of: a value, or the inside of a list or of an object, from its
first item or member on or from a later one on. -/
inductive Part where
  | value
  | items (first : Bool)
  | members (first : Bool)

/-- The grammar of JSON. -/
inductive IsJson : Part → List Token → Prop
  | scalar {t : Token} (h : t.IsScalar) : IsJson .value [t]
  | list {us : List Token} (h : IsJson (.items true) us) :
    IsJson .value (.mark '[' :: (us ++ [.mark ']']))
  | object {us : List Token} (h : IsJson (.members true) us) :
    IsJson .value (.mark '{' :: (us ++ [.mark '}']))
  | noItem {first : Bool} : IsJson (.items first) []
  | item {first : Bool} {ts us : List Token} (h : IsJson .value ts)
    (hus : IsJson (.items false) us) : IsJson (.items first) (comma first ++ (ts ++ us))
  | noMember {first : Bool} : IsJson (.members first) []
  | member {first : Bool} {body : List Char} {ts us : List Token} (hbody : StringBody body)
    (h : IsJson .value ts) (hus : IsJson (.members false) us) :
    IsJson (.members first) (comma first ++ (.string body :: .mark ':' :: (ts ++ us)))

/-! ### Strings and scalars -/

theorem skipStringRest_append {body : List Char} (h : StringBody body) (rest : List Char) :
    skipStringRest (body ++ '"' :: rest) = .ok ((), rest) := by
  induction h with
  | nil => simp [skipStringRest]
  | @plain c body hquote hslash hcontrol _ ih =>
    rw [List.cons_append, skipStringRest, if_neg hcontrol, ih]
    · exact hquote
    all_goals simp [hslash]
  | @escape c d body hd _ ih =>
    have hu : c ≠ 'u' := by
      rintro rfl
      simp [plainEscape?] at hd
    rw [List.cons_append, List.cons_append, skipStringRest]
    · simp [hd, ih]
    all_goals simp [hu]
  | unicode hcode _ ih => simp [skipStringRest, hcode, ih]

theorem wellFormed_of_stringBody {body : List Char} (h : StringBody body) :
    (Token.string body).WellFormed := by
  intro rest
  induction h with
  | nil => rfl
  | plain hquote hslash _ _ ih => exact literal_cons hquote hslash ih
  | escape _ _ ih => exact literal_escape _ ih
  | unicode hcode _ ih => exact literal_escape 'u' (literal_hex hcode ih)

namespace Token.IsScalar

variable {t : Token}

theorem wellFormed (h : t.IsScalar) : t.WellFormed := by
  cases h with
  | null => exact ⟨by simp, List.all_eq_true.mp (by decide)⟩
  | true => exact ⟨by simp, List.all_eq_true.mp (by decide)⟩
  | false => exact ⟨by simp, List.all_eq_true.mp (by decide)⟩
  | number h => exact isAtomChar_of_numeralText h
  | string h => exact wellFormed_of_stringBody h

theorem skipScalar?_append (h : t.IsScalar) {rest : List Char} (hrest : Delimited rest) :
    skipScalar? (t.text ++ rest) = some (.ok rest) := by
  cases h with
  | null => simp [Token.text, skipScalar?, word, Except.map]
  | true => simp [Token.text, skipScalar?, word, Except.map]
  | false => simp [Token.text, skipScalar?, word, Except.map]
  | string h => simp [Token.text, skipScalar?, skipStringRest_append h, Except.map]
  | @number n cs h =>
    have hnumeral := numeral_append h hrest .invalidNumber
    obtain ⟨hhead, -⟩ := Numeral.took_of_scan (Numeral.scan_append h delimited_nil)
    rw [List.append_nil] at hhead
    cases cs with
    | nil => simp at hhead
    | cons c cs =>
      have hc : c = '-' ∨ c.isDigit = Bool.true := by simpa using hhead
      have hne := ne_of_opensNumber hc
      rw [List.cons_append] at hnumeral
      rw [Token.text, List.cons_append, skipScalar?]
      · simp [hc, hnumeral, Except.map]
      all_goals simp [hne]

end Token.IsScalar

/-! ### Tokens of values -/

namespace IsJson

theorem wellFormed {part : Part} {ts : List Token} (h : IsJson part ts) :
    ∀ t ∈ ts, t.WellFormed := by
  have hmark : ∀ c, isMark c = true → (Token.mark c).WellFormed := fun c hc => hc
  induction h with
  | scalar h => simpa using h.wellFormed
  | list _ ih => exact wellFormed_bracketed rfl (by decide) (by decide) ih
  | object _ ih => exact wellFormed_bracketed rfl (by decide) (by decide) ih
  | noItem => simp
  | item _ _ ih ihs =>
    exact List.forall_mem_append.mpr ⟨wellFormed_comma, List.forall_mem_append.mpr ⟨ih, ihs⟩⟩
  | noMember => simp
  | member hbody _ _ ih ihs =>
    refine List.forall_mem_append.mpr ⟨wellFormed_comma, ?_⟩
    exact List.forall_mem_cons.mpr ⟨wellFormed_of_stringBody hbody,
      List.forall_mem_cons.mpr ⟨hmark ':' (by decide), List.forall_mem_append.mpr ⟨ih, ihs⟩⟩⟩

/-- A value cannot be mistaken for the end of the list that it is in. -/
theorem starts {ts : List Token} (h : IsJson .value ts) :
    ∃ t us, ts = t :: us ∧ t ≠ .mark ']' := by
  cases h with
  | scalar h =>
    refine ⟨_, [], rfl, ?_⟩
    rintro rfl
    cases h
  | list => exact ⟨_, _, rfl, by simp⟩
  | object => exact ⟨_, _, rfl, by simp⟩

/-- What stands behind a value in a list or an object begins with a comma, or with its end. -/
theorem delimited {part : Part} {us : List Token} {cs mid rest : List Char} {c : Char}
    (h : IsJson part us) (hpart : part = .items false ∨ part = .members false)
    (hspells : Spells us cs mid) (hmid : skipBlanks mid = c :: rest) (hc : isMark c = true) :
    Delimited cs := by
  have hcomma : ∀ {vs}, Spells (comma false ++ vs) cs mid → Delimited cs := by
    intro vs hspells
    obtain _ | ⟨hskip, _⟩ := hspells
    exact delimited_of_skipBlanks_eq_mark hskip (by decide)
  cases h with
  | noItem =>
    cases hspells
    exact delimited_of_skipBlanks_eq_mark hmid hc
  | noMember =>
    cases hspells
    exact delimited_of_skipBlanks_eq_mark hmid hc
  | item =>
    obtain rfl : _ = false := by simpa using hpart
    exact hcomma hspells
  | member =>
    obtain rfl : _ = false := by simpa using hpart
    exact hcomma hspells
  | _ => simp at hpart

end IsJson

/-! ### Steps of the machine -/

section Steps

variable {stack outer : List Bracket} {bound : ℕ} {cs mid rest : List Char}

/-- Goes on behind a value: in the innermost bracket, if there is one. -/
def resume (stack : List Bracket) (bound : ℕ) (rest : List Char) :
    Except Failure (Unit × List Char) :=
  if stack.isEmpty then .ok ((), rest) else skipFrom (.inside true) stack bound rest

/-- Blanks before a value are stepped over. -/
theorem skipFrom_skipBlanks (stage : SkipStage) (stack : List Bracket) (bound : ℕ)
    (cs : List Char) :
    skipFrom stage stack bound (skipBlanks cs) = skipFrom stage stack bound cs := by
  cases bound with
  | zero => simp [skipFrom]
  | succ bound => simp only [skipFrom, skipBlanks_idem]

theorem skipFrom_scalar (h : skipScalar? (skipBlanks cs) = some (.ok rest)) :
    skipFrom .atValue stack (bound + 1) cs = resume stack bound rest := by
  have hne : skipBlanks cs ≠ [] := by
    intro hnil
    simp [hnil, skipScalar?] at h
  have hlist : ∀ r, skipBlanks cs ≠ '[' :: r := by
    intro r hr
    rw [hr] at h
    cases h
  have hobject : ∀ r, skipBlanks cs ≠ '{' :: r := by
    intro r hr
    rw [hr] at h
    cases h
  rw [skipFrom]
  split
  · next heq => exact absurd heq hne
  · next r heq => exact absurd heq (hlist r)
  · next r heq => exact absurd heq (hobject r)
  · simp only [h, Option.getD_some, resume]
    rfl

/-- The mark that opens a bracket. -/
def opening : Bracket → Char
  | .list => '['
  | .object => '{'

/-- The mark that closes a bracket. -/
def closing : Bracket → Char
  | .list => ']'
  | .object => '}'

theorem skipFrom_open {b : Bracket} (h : skipBlanks cs = opening b :: rest) :
    skipFrom .atValue stack (bound + 1) cs = skipFrom (.inside false) (b :: stack) bound rest := by
  cases b <;> simp [skipFrom, h, opening]

theorem skipFrom_close {b : Bracket} {comma : Bool} (h : skipBlanks cs = closing b :: rest) :
    skipFrom (.inside comma) (b :: outer) (bound + 1) cs = resume outer bound rest := by
  cases b <;> simp [skipFrom, h, closing, resume]

theorem skipName_skipBlanks (cs : List Char) : skipName (skipBlanks cs) = skipName cs := by
  rw [skipName, skipBlanks_idem, skipName]

/-- Before an item or a member the comma is stepped over, and then the name of a member. -/
theorem skipFrom_enter {b : Bracket} {first : Bool} (h : Spells (comma first) cs mid)
    (hmid : first = true → ∃ c r, skipBlanks mid = c :: r ∧ c ≠ closing b) :
    skipFrom (.inside !first) (b :: outer) (bound + 1) cs = (do
      let start ← if b = .object then skipName mid else .ok mid
      skipFrom .atValue (b :: outer) bound start) := by
  cases first with
  | true =>
    obtain rfl := spells_comma_true.mp h
    obtain ⟨c, r, hskip, hc⟩ := hmid rfl
    have hvalue := skipFrom_skipBlanks .atValue (b :: outer) bound mid
    rw [hskip] at hvalue
    rw [← skipName_skipBlanks, hskip]
    cases b <;> rw [closing] at hc <;> simp [skipFrom, hskip, hc, hvalue, bind, Except.bind]
  | false =>
    cases b <;> simp [skipFrom, spells_comma_false.mp h, bind, Except.bind]

theorem skipName_append {body : List Char} (hbody : StringBody body)
    (h : Spells [.string body, .mark ':'] cs mid) : skipName cs = .ok mid := by
  obtain ⟨after, hskip, h⟩ := h.of_string
  obtain ⟨_, hcolon, hnil⟩ := h.of_mark
  cases hnil
  simp [skipName, hskip, skipStringRest_append hbody, colon_eq_ok_iff.mpr hcolon, bind, Except.bind,
    pure, Except.pure]

end Steps

/-! ### Runs of the machine -/

/-- What the machine does with a part of a text that has been described: at a value it resumes
behind it, and inside of a bracket it resumes behind the closing one. -/
def Passes : Part → List Token → Prop
  | .value, ts => ∀ stack cs rest, Spells ts cs rest → Delimited rest →
    ∃ k < 2 * ts.length, ∀ bound,
      skipFrom .atValue stack (bound + k) cs = resume stack bound rest
  | .items first, us => ∀ outer cs mid rest, Spells us cs mid → skipBlanks mid = ']' :: rest →
    ∃ k ≤ 2 * us.length + 1, ∀ bound,
      skipFrom (.inside !first) (.list :: outer) (bound + k) cs = resume outer bound rest
  | .members first, us => ∀ outer cs mid rest, Spells us cs mid → skipBlanks mid = '}' :: rest →
    ∃ k ≤ 2 * us.length + 1, ∀ bound,
      skipFrom (.inside !first) (.object :: outer) (bound + k) cs = resume outer bound rest

/-- A bracket is passed if what is inside of it is. -/
theorem passes_bracketed {b : Bracket} {us : List Token}
    (h : ∀ outer cs mid rest, Spells us cs mid → skipBlanks mid = closing b :: rest →
      ∃ k ≤ 2 * us.length + 1, ∀ bound,
        skipFrom (.inside false) (b :: outer) (bound + k) cs = resume outer bound rest) :
    Passes .value (.mark (opening b) :: (us ++ [.mark (closing b)])) := by
  intro stack cs rest hspells _
  obtain ⟨start, hskip, hspells⟩ := hspells.of_mark
  obtain ⟨mid, hus, hclose⟩ := hspells.of_append
  obtain ⟨_, hmid, hnil⟩ := hclose.of_mark
  cases hnil
  obtain ⟨k, hk, hrun⟩ := h stack start mid rest hus hmid
  refine ⟨k + 1, by simp; omega, fun bound => ?_⟩
  rw [← Nat.add_assoc, skipFrom_open hskip]
  exact hrun bound

theorem IsJson.passes {part : Part} {ts : List Token} (h : IsJson part ts) : Passes part ts := by
  induction h with
  | @scalar t ht =>
    intro stack cs rest hspells hrest
    obtain _ | ⟨hskip, hnil⟩ := hspells
    cases hnil
    have hscalar := ht.skipScalar?_append hrest
    exact ⟨1, by simp, fun bound => skipFrom_scalar (hskip ▸ hscalar)⟩
  | list _ ih => exact passes_bracketed (b := .list) ih
  | object _ ih => exact passes_bracketed (b := .object) ih
  | noItem =>
    intro outer cs mid rest hspells hmid
    cases hspells
    exact ⟨1, by simp, fun bound => skipFrom_close hmid⟩
  | noMember =>
    intro outer cs mid rest hspells hmid
    cases hspells
    exact ⟨1, by simp, fun bound => skipFrom_close hmid⟩
  | @item first ts us h hus ih ihs =>
    intro outer cs mid rest hspells hmid
    obtain ⟨start, hcomma, hspells⟩ := hspells.of_append
    obtain ⟨behind, hvalue, hrest⟩ := hspells.of_append
    -- The value does not begin like the end of the list, so that the machine enters it.
    obtain ⟨t, ts', rfl, ht⟩ := h.starts
    obtain ⟨c, cs', htext, -, hc⟩ := Token.head_text_ne (h.wellFormed t (by simp)) ht
    have hskip : ∃ r, skipBlanks start = c :: r := by
      obtain _ | ⟨hskip, -⟩ := hvalue
      exact ⟨_, by rw [hskip, htext]; rfl⟩
    obtain ⟨r, hskip⟩ := hskip
    obtain ⟨k, hk, hrun⟩ := ih (.list :: outer) start behind hvalue
      (hus.delimited (.inl rfl) hrest hmid (by decide))
    obtain ⟨l, hl, hruns⟩ := ihs outer behind mid rest hrest hmid
    refine ⟨l + k + 1, by simp only [List.length_append] at *; omega, fun bound => ?_⟩
    rw [show bound + (l + k + 1) = bound + l + k + 1 by omega,
      skipFrom_enter (b := .list) hcomma fun _ => ⟨c, r, hskip, hc⟩, if_neg (by simp)]
    exact (hrun _).trans (hruns bound)
  | @member first body ts us hbody h hus ih ihs =>
    intro outer cs mid rest hspells hmid
    -- The comma, the name and the colon are one step of the machine.
    have hsplit : comma first ++ (.string body :: .mark ':' :: (ts ++ us)) =
        (comma first ++ [.string body, .mark ':']) ++ (ts ++ us) := by simp
    rw [hsplit] at hspells
    obtain ⟨start, hname, hspells⟩ := hspells.of_append
    obtain ⟨behind, hvalue, hrest⟩ := hspells.of_append
    obtain ⟨before, hcomma, hname⟩ := hname.of_append
    obtain ⟨after, hquote, -⟩ := hname.of_string
    obtain ⟨k, hk, hrun⟩ := ih (.object :: outer) start behind hvalue
      (hus.delimited (.inr rfl) hrest hmid (by decide))
    obtain ⟨l, hl, hruns⟩ := ihs outer behind mid rest hrest hmid
    refine ⟨l + k + 1, ?_, fun bound => ?_⟩
    · simp only [List.length_append, List.length_cons]
      omega
    · rw [show bound + (l + k + 1) = bound + l + k + 1 by omega,
        skipFrom_enter (b := .object) hcomma fun _ => ⟨_, _, hquote, by decide⟩, if_pos rfl,
        skipName_append hbody hname]
      exact (hrun _).trans (hruns bound)

/-- Every value of JSON is stepped over. -/
theorem skip_of_isJson {ts : List Token} {cs rest : List Char} (h : IsJson .value ts)
    (hspells : Spells ts cs rest) (hrest : Delimited rest) : skip cs = .ok ((), rest) := by
  obtain ⟨k, hk, hrun⟩ := h.passes [] cs rest hspells hrest
  have hlength := hspells.length_le h.wellFormed
  obtain ⟨bound, hbound⟩ : ∃ bound, 2 * cs.length + 2 = bound + k :=
    ⟨2 * cs.length + 2 - k, by omega⟩
  rw [skip, hbound, hrun]
  rfl

end SageEditor.Json
