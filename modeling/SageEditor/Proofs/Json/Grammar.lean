/-
The grammar of JSON texts.

* `Token.Denotes` — the tokens that are scalars, and their values;
* `Items` — items with commas between them;
* `IsValue` — the token sequences that are values, with lists and objects nested at most so deep;
* `parse_eq_ok_iff` — a text is read as a value exactly if its tokens are that value.

Design notes: as in the readers, the rule for items takes the rule for one item as an argument, so
that `IsValue` recurses on the depth alone.  Soundness and completeness of the readers of lists
and objects are proved for any readers of items that are sound and complete.
-/
import SageEditor.Proofs.Json.Lexeme

namespace SageEditor.Json

open Read

/-! ### The grammar -/

/-- A token that is a value by itself. -/
inductive Token.Denotes : Token → Json → Prop
  | null : (atom ['n', 'u', 'l', 'l']).Denotes .null
  | true : (atom ['t', 'r', 'u', 'e']).Denotes (.bool true)
  | false : (atom ['f', 'a', 'l', 's', 'e']).Denotes (.bool false)
  | number {cs : List Char} {n : Number} (hatoms : ∀ c ∈ cs, isAtomChar c = true)
    (h : Read.number cs = .ok (n, [])) : (atom cs).Denotes (.number n)
  | string {body cs : List Char} (h : StringText body cs) :
    (string body).Denotes (.string (String.ofList cs))

/-- The comma before an item that is not the first. -/
def comma (first : Bool) : List Token :=
  if first then [] else [.mark ',']

/-- Items one after the other, each but the first after a comma. -/
inductive Items {α : Type} (item : List Token → α → Prop) :
    (first : Bool) → List Token → List α → Prop
  | nil {first : Bool} : Items item first [] []
  | cons {first : Bool} {ts us : List Token} {a : α} {as : List α} (h : item ts a) :
    Items item false us as → Items item first (comma first ++ (ts ++ us)) (a :: as)

/-- A member of an object: a name, a colon and a value. -/
def IsMember (value : List Token → Json → Prop) (ts : List Token) (m : String × Json) : Prop :=
  ∃ body cs us, ts = .string body :: .mark ':' :: us ∧ StringText body cs ∧
    m.1 = String.ofList cs ∧ value us m.2

/-- Items between brackets. -/
def Bracketed (opening closing : Char) (ts us : List Token) : Prop :=
  ts = .mark opening :: (us ++ [.mark closing])

/-- The tokens of a value in which lists and objects are nested at most `depth` deep. -/
def IsValue : (depth : ℕ) → List Token → Json → Prop
  | 0, ts, v => ∃ t : Token, ts = [t] ∧ t.Denotes v
  | depth + 1, ts, v =>
    (∃ t : Token, ts = [t] ∧ t.Denotes v) ∨
    (∃ us xs, Bracketed '[' ']' ts us ∧ Items (IsValue depth) true us xs ∧ v = .array xs) ∨
    (∃ us ms, Bracketed '{' '}' ts us ∧ Items (IsMember (IsValue depth)) true us ms ∧
      v = mkObject ms)

theorem isValue_of_denotes {t : Token} {v : Json} (h : t.Denotes v) (depth : ℕ) :
    IsValue depth [t] v := by
  cases depth with
  | zero => exact ⟨t, rfl, h⟩
  | succ depth => exact .inl ⟨t, rfl, h⟩

/-! ### Results of readers -/

theorem bind_eq_ok {ε α β : Type} {x : Except ε α} {f : α → Except ε β} {b : β} :
    (x >>= f) = .ok b ↔ ∃ a, x = .ok a ∧ f a = .ok b := by
  cases x with
  | error e => simp [bind, Except.bind]
  | ok a => simp [bind, Except.bind]

theorem exists_ok_of_isOk {ε α : Type} {x : Except ε α} (h : x.isOk = true) :
    ∃ a, x = .ok a := by
  cases x with
  | error e => cases h
  | ok a => exact ⟨a, rfl⟩

theorem exists_error_of_isOk {ε α : Type} {x : Except ε α} (h : x.isOk = false) :
    ∃ e, x = .error e := by
  cases x with
  | error e => exact ⟨e, rfl⟩
  | ok a => cases h

theorem map_eq_ok {ε α β : Type} {x : Except ε α} {f : α → β} {b : β} :
    x.map f = .ok b ↔ ∃ a, x = .ok a ∧ f a = b := by
  cases x with
  | error e => simp [Except.map]
  | ok a => simp [Except.map]

theorem mapError_eq_ok {ε ε' α : Type} {f : ε → ε'} {x : Except ε α} {a : α} :
    x.mapError f = .ok a ↔ x = .ok a := by
  cases x with
  | error e => simp [Except.mapError]
  | ok a => simp [Except.mapError]

/-! ### Scalars -/

/-- A number begins like no other scalar. -/
theorem ne_of_opensNumber {c : Char} (h : c = '-' ∨ c.isDigit = true) :
    ∀ d ∈ ['n', 't', 'f', '"'], c ≠ d := by
  rintro d hd rfl
  have hnone : ['n', 't', 'f', '"'].all (fun d => !(d == '-' || d.isDigit)) = true := by decide
  have hno := List.all_eq_true.mp hnone c hd
  simp_all

namespace Token.Denotes

variable {t : Token} {v : Json}

theorem wellFormed (h : t.Denotes v) : t.WellFormed := by
  cases h with
  | null => exact ⟨by simp, List.all_eq_true.mp (by decide)⟩
  | true => exact ⟨by simp, List.all_eq_true.mp (by decide)⟩
  | false => exact ⟨by simp, List.all_eq_true.mp (by decide)⟩
  | number hatoms h =>
    refine ⟨?_, hatoms⟩
    rintro rfl
    simpa using (took_of_number h).1
  | string h => exact wellFormed_of_stringText h

theorem of_scalar? {cs rest : List Char} (h : scalar? cs = some (.ok (v, rest))) :
    ∃ t : Token, t.Denotes v ∧ cs = t.text ++ rest := by
  unfold scalar? at h
  split at h
  · obtain ⟨⟨⟨⟩, r⟩, hword, heq⟩ := map_eq_ok.mp (Option.some.inj h)
    obtain ⟨rfl, rfl⟩ := Prod.mk.inj heq
    exact ⟨_, .null, by rw [word_eq_ok_iff.mp hword]; rfl⟩
  · obtain ⟨⟨⟨⟩, r⟩, hword, heq⟩ := map_eq_ok.mp (Option.some.inj h)
    obtain ⟨rfl, rfl⟩ := Prod.mk.inj heq
    exact ⟨_, .true, by rw [word_eq_ok_iff.mp hword]; rfl⟩
  · obtain ⟨⟨⟨⟩, r⟩, hword, heq⟩ := map_eq_ok.mp (Option.some.inj h)
    obtain ⟨rfl, rfl⟩ := Prod.mk.inj heq
    exact ⟨_, .false, by rw [word_eq_ok_iff.mp hword]; rfl⟩
  · obtain ⟨⟨s, r⟩, hstring, heq⟩ := map_eq_ok.mp (Option.some.inj h)
    obtain ⟨rfl, rfl⟩ := Prod.mk.inj heq
    obtain ⟨body, ds, hbody, rfl, rfl⟩ := stringRest_eq_ok_iff.mp hstring
    exact ⟨_, .string hbody, by simp [Token.text]⟩
  · split at h
    · obtain ⟨⟨n, r⟩, hnumber, heq⟩ := map_eq_ok.mp (Option.some.inj h)
      obtain ⟨rfl, rfl⟩ := Prod.mk.inj heq
      obtain ⟨-, taken, htaken, hatoms, hread⟩ := took_of_number hnumber
      have halone := hread [] delimited_nil
      rw [List.append_nil] at halone
      exact ⟨_, .number hatoms halone, htaken⟩
    · cases h
  · cases h

theorem scalar?_append (h : t.Denotes v) {rest : List Char} (hrest : Delimited rest) :
    scalar? (t.text ++ rest) = some (.ok (v, rest)) := by
  cases h with
  | null => simp [Token.text, scalar?, word, Except.map]
  | true => simp [Token.text, scalar?, word, Except.map]
  | false => simp [Token.text, scalar?, word, Except.map]
  | string h =>
    have := stringRest_of_stringText h [] rest
    simp [Token.text, scalar?, this, Except.map]
  | @number cs n hatoms h =>
    obtain ⟨hhead, taken, htaken, -, hread⟩ := took_of_number h
    rw [List.append_nil] at htaken
    subst htaken
    cases cs with
    | nil => simp at hhead
    | cons c cs =>
      have hc : c = '-' ∨ c.isDigit = Bool.true := by simpa using hhead
      have hne := ne_of_opensNumber hc
      have hnumber : Read.number (c :: (cs ++ rest)) = .ok (n, rest) := hread rest hrest
      rw [Token.text, List.cons_append, scalar?]
      · simp [hc, hnumber, Except.map]
      all_goals simp [hne]

end Token.Denotes

/-! ### Readers of one grammar symbol -/

/-- A reader takes the token sequences that `item` describes. -/
structure Takes {α : Type} (read : Reader α) (item : List Token → α → Prop) : Prop where
  complete {ts : List Token} {cs rest : List Char} {a : α} :
    item ts a → Spells ts cs rest → Delimited rest → read cs = .ok (a, rest)
  wellFormed {ts : List Token} {a : α} : item ts a → ∀ t ∈ ts, t.WellFormed
  /-- An item cannot be mistaken for the end of the list that it is in. -/
  starts {ts : List Token} {a : α} : item ts a → ∃ t us, ts = t :: us ∧ t ≠ .mark ']'

/-- A reader takes the token sequences that `item` describes, and only those. -/
structure Reads {α : Type} (read : Reader α) (item : List Token → α → Prop) : Prop
    extends Takes read item where
  sound {cs rest : List Char} {a : α} :
    read cs = .ok (a, rest) → ∃ ts, item ts a ∧ Spells ts cs rest
  apart {ts : List Token} {a : α} : item ts a → ts.IsChain Token.Apart

/-- A reader takes fewer token sequences just as well. -/
theorem Takes.mono {α : Type} {read : Reader α} {item item' : List Token → α → Prop}
    (hread : Takes read item) (h : ∀ {ts a}, item' ts a → item ts a) : Takes read item' :=
  ⟨fun ha => hread.complete (h ha), fun ha => hread.wellFormed (h ha),
    fun ha => hread.starts (h ha)⟩

theorem Token.head_text_ne {t : Token} (h : t.WellFormed) (hne : t ≠ .mark ']') :
    ∃ c cs, t.text = c :: cs ∧ isBlank c = false ∧ c ≠ ']' := by
  obtain ⟨c, cs, htext, hblank⟩ := h.head_text
  refine ⟨c, cs, htext, hblank, ?_⟩
  rintro rfl
  cases t with
  | mark d => exact hne (by rw [(List.cons.inj htext).1])
  | atom ds =>
    have := h.2 ']' (by rw [show ds = ']' :: cs from htext]; simp)
    exact absurd this (by decide)
  | string body => exact absurd (List.cons.inj htext).1 (by decide)

theorem Spells.length_le {ts : List Token} {cs rest : List Char} (h : Spells ts cs rest)
    (hwf : ∀ t ∈ ts, t.WellFormed) : ts.length + rest.length ≤ cs.length := by
  induction h with
  | nil => simp
  | @cons t ts cs mid rest hskip _ ih =>
    have hmid := ih fun u hu => hwf u (by simp [hu])
    have hle : (Read.skipBlanks cs).length ≤ cs.length := (List.dropWhile_sublist _).length_le
    have htext := List.length_pos_of_ne_nil (hwf t (by simp)).text_ne_nil
    rw [hskip, List.length_append] at hle
    simp only [List.length_cons]
    omega

/-! ### Items -/

section Items

variable {α : Type} {read : Reader α} {item : List Token → α → Prop} {first : Bool}
  {ts : List Token} {as : List α} {cs mid rest : List Char}

theorem wellFormed_comma : ∀ t ∈ comma first, t.WellFormed := by
  cases first with
  | true => simp [comma]
  | false =>
    simp only [comma, Bool.false_eq_true, if_false, List.mem_singleton, forall_eq]
    exact (by decide : isMark ',' = true)

theorem Items.wellFormed (hitem : ∀ ts a, item ts a → ∀ t ∈ ts, t.WellFormed)
    (h : Items item first ts as) : ∀ t ∈ ts, t.WellFormed := by
  induction h with
  | nil => simp
  | cons h _ ih =>
    exact List.forall_mem_append.mpr
      ⟨wellFormed_comma, List.forall_mem_append.mpr ⟨hitem _ _ h, ih⟩⟩

theorem Items.length_le (hitem : ∀ ts a, item ts a → ts ≠ []) (h : Items item first ts as) :
    as.length ≤ ts.length := by
  induction h with
  | nil => simp
  | cons h _ ih =>
    have := List.length_pos_of_ne_nil (hitem _ _ h)
    simp only [List.length_cons, List.length_append]
    omega

/-- What follows an item begins with a mark. -/
theorem Items.head?_isMark (h : Items item false ts as) : ∀ t ∈ ts.head?, t.IsMark := by
  cases h with
  | nil => simp
  | cons => simp [comma, Token.IsMark]

theorem isChain_append_mark {us : List Token} (hts : ts.IsChain Token.Apart)
    (hus : us.IsChain Token.Apart) (hmark : ∀ t ∈ us.head?, t.IsMark) :
    (ts ++ us).IsChain Token.Apart :=
  hts.append hus fun _ _ u hu => .inr (hmark u hu)

theorem Items.apart (hitem : ∀ ts a, item ts a → ts.IsChain Token.Apart)
    (h : Items item first ts as) : ts.IsChain Token.Apart := by
  induction h with
  | nil => exact .nil
  | @cons first ts us a as h hrest ih =>
    have htail := isChain_append_mark (hitem _ _ h) ih hrest.head?_isMark
    cases first with
    | true => exact htail
    | false =>
      refine (List.isChain_singleton (Token.mark ',')).append htail fun t ht u _ => ?_
      obtain rfl : .mark ',' = t := by simpa using ht
      exact .inl trivial

theorem Items.delimited (h : Items item false ts as) (hspells : Spells ts cs mid) {c : Char}
    (hmid : skipBlanks mid = c :: rest) (hc : isMark c = true) : Delimited cs := by
  cases h with
  | nil =>
    cases hspells
    exact delimited_of_skipBlanks_eq_mark hmid hc
  | cons h hrest =>
    obtain _ | ⟨hskip, _⟩ := hspells
    exact delimited_of_skipBlanks_eq_mark hskip (by decide)

theorem spells_comma_true : Spells (comma true) cs mid ↔ mid = cs := by
  constructor
  · intro h
    cases h
    rfl
  · rintro rfl
    exact .nil _

theorem spells_comma_false : Spells (comma false) cs mid ↔ skipBlanks cs = ',' :: mid := by
  constructor
  · intro h
    obtain _ | ⟨hskip, h⟩ := h
    cases h
    exact hskip
  · exact fun h => .singleton h

theorem nextItem_close (h : skipBlanks cs = ']' :: rest) :
    nextItem first cs = .ok (false, ']' :: rest) := by
  simp [nextItem, h]

theorem nextItem_item (h : Spells (comma first) cs mid) {c : Char}
    (hmid : skipBlanks mid = c :: rest) (hc : c ≠ ']') :
    nextItem first cs = .ok (true, c :: rest) := by
  cases first with
  | true =>
    obtain rfl := spells_comma_true.mp h
    simp [nextItem, hmid]
  | false =>
    simp [nextItem, spells_comma_false.mp h, hmid, hc]

theorem of_nextItem_close (h : nextItem first cs = .ok (false, rest)) :
    skipBlanks cs = rest ∧ ∃ r, rest = ']' :: r := by
  unfold nextItem at h
  split at h
  · cases h
  · next r heq =>
    obtain ⟨-, rfl⟩ := Prod.mk.inj (Except.ok.inj h)
    exact ⟨heq, r, rfl⟩
  · split at h
    · cases h
    · split at h
      · split at h <;> cases h
      · cases h

theorem of_nextItem_item (h : nextItem first cs = .ok (true, rest)) :
    ∃ mid, Spells (comma first) cs mid ∧ skipBlanks mid = rest := by
  unfold nextItem at h
  split at h
  · cases h
  · cases h
  · next c r _ heq =>
    cases first with
    | true =>
      obtain ⟨-, rfl⟩ := Prod.mk.inj (Except.ok.inj h)
      exact ⟨cs, .nil cs, heq⟩
    | false =>
      simp only [Bool.false_eq_true, if_false] at h
      split at h
      · next hc =>
        split at h
        · cases h
        · cases h
        · next hr =>
          obtain ⟨-, rfl⟩ := Prod.mk.inj (Except.ok.inj h)
          exact ⟨r, spells_comma_false.mpr (hc ▸ heq), rfl⟩
      · cases h

theorem closeList_close (h : skipBlanks cs = ']' :: rest) : closeList cs = (.ok (), rest) := by
  simp [closeList, h]

theorem of_itemsFrom (hread : Reads read item) {acc all : List α} {bound : ℕ}
    (h : itemsFrom read first acc bound cs = .ok (all, rest)) :
    ∃ ts as mid, Items item first ts as ∧ all = acc.reverse ++ as ∧ Spells ts cs mid ∧
      skipBlanks mid = rest ∧ ∃ r, rest = ']' :: r := by
  induction bound generalizing first acc cs with
  | zero => cases h
  | succ bound ih =>
    obtain ⟨⟨more, r⟩, hnext, h⟩ := bind_eq_ok.mp h
    cases more with
    | false =>
      obtain ⟨rfl, rfl⟩ := Prod.mk.inj (Except.ok.inj h)
      obtain ⟨hskip, hclose⟩ := of_nextItem_close hnext
      exact ⟨[], [], cs, .nil, by simp, .nil cs, hskip, hclose⟩
    | true =>
      obtain ⟨⟨a, r'⟩, ha, h⟩ := bind_eq_ok.mp h
      obtain ⟨us, as, mid, hus, rfl, hspells, hmid, hclose⟩ := ih h
      obtain ⟨start, hcomma, rfl⟩ := of_nextItem_item hnext
      obtain ⟨ts, hts, hspells'⟩ := hread.sound ha
      have hne : ts ≠ [] := by
        obtain ⟨t, us, rfl, -⟩ := hread.starts hts
        simp
      exact ⟨_, a :: as, mid, .cons hts hus, by simp,
        hcomma.append ((hspells'.of_skipBlanks hne).append hspells), hmid, hclose⟩

theorem itemsFrom_of_items (hread : Takes read item) (h : Items item first ts as)
    (hspells : Spells ts cs mid) (hmid : skipBlanks mid = ']' :: rest) (acc : List α) {bound : ℕ}
    (hbound : as.length < bound) :
    itemsFrom read first acc bound cs = .ok (acc.reverse ++ as, ']' :: rest) := by
  induction h generalizing acc bound cs with
  | nil =>
    obtain ⟨bound, rfl⟩ := Nat.exists_eq_succ_of_ne_zero hbound.ne'
    cases hspells
    simp [itemsFrom, nextItem_close hmid, bind, Except.bind, pure, Except.pure]
  | @cons first ts us a as hts hus ih =>
    obtain ⟨bound, rfl⟩ := Nat.exists_eq_succ_of_ne_zero (Nat.ne_zero_of_lt hbound)
    obtain ⟨start, hcomma, hspells⟩ := hspells.of_append
    obtain ⟨mid', hspells, hspells'⟩ := hspells.of_append
    obtain ⟨t, ts', rfl, ht⟩ := hread.starts hts
    obtain ⟨c, cs', htext, -, hc⟩ := Token.head_text_ne (hread.wellFormed hts t (by simp)) ht
    -- An item does not begin like the end of the list, so the reader goes on.
    have hskip : ∃ r, skipBlanks start = c :: r := by
      obtain _ | ⟨hskip, -⟩ := hspells
      exact ⟨_, by rw [hskip, htext]; rfl⟩
    obtain ⟨r, hskip⟩ := hskip
    have ha : read (c :: r) = .ok (a, mid') :=
      hread.complete hts (hskip ▸ hspells.skipBlanks (by simp))
        (hus.delimited hspells' hmid (by decide))
    have hbound' : as.length < bound := by
      rw [List.length_cons] at hbound
      omega
    have hrest := ih hspells' (a :: acc) hbound'
    rw [itemsFrom, nextItem_item hcomma hskip hc]
    simp [bind, Except.bind, ha, hrest]

/-- A list is taken behind its opening bracket. -/
theorem items_of_items (hread : Takes read item) (hts : Items item true ts as)
    (h : Spells (ts ++ [.mark ']']) cs rest) : items read cs = .ok (as, rest) := by
  obtain ⟨mid, hspells, hmark⟩ := h.of_append
  obtain ⟨_, hmid, hnil⟩ := hmark.of_mark
  cases hnil
  -- Every item has a character, so the length of the text is bound enough.
  have hlength := hts.length_le fun ts a hts => by
    obtain ⟨t, us, rfl, -⟩ := hread.starts hts
    simp
  have hle := hspells.length_le (hts.wellFormed fun _ _ => hread.wellFormed)
  have hall := itemsFrom_of_items hread hts hspells hmid []
    (show _ < cs.length + 1 by omega)
  have hclose : closeList (']' :: rest) = (.ok (), rest) :=
    closeList_close (skipBlanks_cons (by decide) rest)
  simp [items, bind, Except.bind, hall, hclose, pure, Except.pure]

/-- Lists after their opening bracket. -/
theorem items_eq_ok_iff (hread : Reads read item) :
    items read cs = .ok (as, rest) ↔
      ∃ ts, Items item true ts as ∧ Spells (ts ++ [.mark ']']) cs rest := by
  constructor
  · intro h
    obtain ⟨⟨all, r⟩, hall, h⟩ := bind_eq_ok.mp h
    obtain ⟨ts, as', mid, hts, rfl, hspells, hmid, r', rfl⟩ := of_itemsFrom hread hall
    have hclose : closeList (']' :: r') = (.ok (), r') :=
      closeList_close (skipBlanks_cons (by decide) r')
    simp only [hclose, pure, Except.pure, Except.ok.injEq, Prod.mk.injEq] at h
    obtain ⟨rfl, rfl⟩ := h
    exact ⟨ts, hts, hspells.append (.singleton hmid)⟩
  · rintro ⟨ts, hts, hspells⟩
    exact items_of_items hread.toTakes hts hspells

end Items

/-! ### Members -/

section Members

variable {read : Reader Json} {value : List Token → Json → Prop} {first : Bool}
  {ts : List Token} {ms : List (String × Json)} {o acc : Object} {cs mid rest : List Char}

theorem nextName_close (h : skipBlanks cs = '}' :: rest) :
    nextName first cs = .ok (false, '}' :: rest) := by
  simp [nextName, h]

theorem nextName_name (h : Spells (comma first) cs mid) (hmid : skipBlanks mid = '"' :: rest) :
    nextName first cs = .ok (true, rest) := by
  cases first with
  | true =>
    obtain rfl := spells_comma_true.mp h
    simp [nextName, hmid]
  | false => simp [nextName, spells_comma_false.mp h, hmid]

theorem of_nextName_close (h : nextName first cs = .ok (false, rest)) :
    skipBlanks cs = rest ∧ ∃ r, rest = '}' :: r := by
  unfold nextName at h
  split at h
  · cases h
  · next r heq =>
    obtain ⟨-, rfl⟩ := Prod.mk.inj (Except.ok.inj h)
    exact ⟨heq, r, rfl⟩
  · split at h
    · split at h <;> cases h
    · split at h
      · split at h <;> cases h
      · cases h

theorem of_nextName_name (h : nextName first cs = .ok (true, rest)) :
    ∃ mid, Spells (comma first) cs mid ∧ skipBlanks mid = '"' :: rest := by
  unfold nextName at h
  split at h
  · cases h
  · cases h
  · next c r _ heq =>
    cases first with
    | true =>
      simp only [if_true] at h
      split at h
      · next hc =>
        obtain ⟨-, rfl⟩ := Prod.mk.inj (Except.ok.inj h)
        exact ⟨cs, .nil cs, hc ▸ heq⟩
      · cases h
    | false =>
      simp only [Bool.false_eq_true, if_false] at h
      split at h
      · next hc =>
        split at h
        · cases h
        · next hr =>
          obtain ⟨-, rfl⟩ := Prod.mk.inj (Except.ok.inj h)
          exact ⟨r, spells_comma_false.mpr (hc ▸ heq), hr⟩
        · cases h
        · cases h
      · cases h

theorem colon_eq_ok_iff : colon cs = .ok ((), rest) ↔ skipBlanks cs = ':' :: rest := by
  unfold colon
  split
  · next h => simp [h]
  · next r h => simp [h]
  · next _ h =>
    simp only [reduceCtorEq, false_iff]
    exact h rest

theorem closeObject_close (h : skipBlanks cs = '}' :: rest) :
    closeObject cs = (.ok (), rest) := by
  simp [closeObject, h]

theorem IsMember.wellFormed (hread : Reads read value) {m : String × Json}
    (h : IsMember value ts m) : ∀ t ∈ ts, t.WellFormed := by
  obtain ⟨body, cs, us, rfl, hbody, -, hus⟩ := h
  exact List.forall_mem_cons.mpr ⟨wellFormed_of_stringText hbody,
    List.forall_mem_cons.mpr ⟨(by decide : isMark ':' = true), hread.wellFormed hus⟩⟩

theorem IsMember.apart (hvalue : ∀ us v, value us v → us.IsChain Token.Apart) {m : String × Json}
    (h : IsMember value ts m) : ts.IsChain Token.Apart := by
  obtain ⟨body, cs, us, rfl, -, -, hus⟩ := h
  refine List.isChain_cons_cons.mpr ⟨.inr trivial, ?_⟩
  refine (List.isChain_singleton (Token.mark ':')).append (hvalue _ _ hus) fun t ht u _ => ?_
  obtain rfl : .mark ':' = t := by simpa using ht
  exact .inl trivial

theorem of_membersFrom (hread : Reads read value) {bound : ℕ}
    (h : membersFrom read first acc bound cs = .ok (o, rest)) :
    ∃ ts ms mid, Items (IsMember value) first ts ms ∧
      o = ms.foldl (fun o m => o.insert m.1 m.2) acc ∧ Spells ts cs mid ∧
      skipBlanks mid = rest ∧ ∃ r, rest = '}' :: r := by
  induction bound generalizing first acc cs with
  | zero => cases h
  | succ bound ih =>
    obtain ⟨⟨more, r⟩, hnext, h⟩ := bind_eq_ok.mp h
    cases more with
    | false =>
      obtain ⟨rfl, rfl⟩ := Prod.mk.inj (Except.ok.inj h)
      obtain ⟨hskip, hclose⟩ := of_nextName_close hnext
      exact ⟨[], [], cs, .nil, by simp, .nil cs, hskip, hclose⟩
    | true =>
      obtain ⟨⟨name, r₁⟩, hname, h⟩ := bind_eq_ok.mp h
      obtain ⟨⟨⟨⟩, r₂⟩, hcolon, h⟩ := bind_eq_ok.mp h
      obtain ⟨⟨v, r₃⟩, hv, h⟩ := bind_eq_ok.mp h
      obtain ⟨us, ms, mid, hus, rfl, hspells, hmid, hclose⟩ := ih h
      obtain ⟨start, hcomma, hstart⟩ := of_nextName_name hnext
      obtain ⟨body, ds, hbody, rfl, rfl⟩ := stringRest_eq_ok_iff.mp hname
      obtain ⟨ts, hts, hspells'⟩ := hread.sound hv
      have hmember : Spells (.string body :: .mark ':' :: ts) start r₃ := by
        have hvalue : Spells (.mark ':' :: ts) r₁ r₃ := .cons (colon_eq_ok_iff.mp hcolon) hspells'
        exact .cons (by rw [hstart]; simp [Token.text]) hvalue
      exact ⟨_, (String.ofList ds, v) :: ms, mid, .cons ⟨body, ds, ts, rfl, hbody, rfl, hts⟩ hus,
        by simp, hcomma.append (hmember.append hspells), hmid, hclose⟩

theorem membersFrom_of_items (hread : Reads read value) (h : Items (IsMember value) first ts ms)
    (hspells : Spells ts cs mid) (hmid : skipBlanks mid = '}' :: rest) (acc : Object) {bound : ℕ}
    (hbound : ms.length < bound) :
    membersFrom read first acc bound cs =
      .ok (ms.foldl (fun o m => o.insert m.1 m.2) acc, '}' :: rest) := by
  induction h generalizing acc bound cs with
  | nil =>
    obtain ⟨bound, rfl⟩ := Nat.exists_eq_succ_of_ne_zero hbound.ne'
    cases hspells
    simp [membersFrom, nextName_close hmid, bind, Except.bind, pure, Except.pure]
  | @cons first ts us m ms hm hus ih =>
    obtain ⟨bound, rfl⟩ := Nat.exists_eq_succ_of_ne_zero (Nat.ne_zero_of_lt hbound)
    obtain ⟨start, hcomma, hspells⟩ := hspells.of_append
    obtain ⟨mid', hspells, hspells'⟩ := hspells.of_append
    obtain ⟨body, ds, vs, rfl, hbody, hname, hvs⟩ := hm
    obtain ⟨after, hstart, hspells⟩ := hspells.of_string
    obtain ⟨start', hcolon, hvalue⟩ := hspells.of_mark
    have hname' := stringRest_of_stringText hbody [] after
    have hv := hread.complete hvs hvalue (hus.delimited hspells' hmid (by decide))
    have hbound' : ms.length < bound := by
      rw [List.length_cons] at hbound
      omega
    have hrest := ih hspells' (acc.insert m.1 m.2) hbound'
    rw [membersFrom, nextName_name hcomma hstart]
    simp only [bind, Except.bind, hname', colon_eq_ok_iff.mpr hcolon]
    simpa [hname, hv] using hrest

/-- Objects after their opening brace. -/
theorem members_eq_ok_iff (hread : Reads read value) :
    members read cs = .ok (o, rest) ↔
      ∃ ts ms, Items (IsMember value) true ts ms ∧ o = Object.ofList ms ∧
        Spells (ts ++ [.mark '}']) cs rest := by
  constructor
  · intro h
    obtain ⟨⟨all, r⟩, hall, h⟩ := bind_eq_ok.mp h
    obtain ⟨ts, ms, mid, hts, rfl, hspells, hmid, r', rfl⟩ := of_membersFrom hread hall
    have hclose : closeObject ('}' :: r') = (.ok (), r') :=
      closeObject_close (skipBlanks_cons (by decide) r')
    simp only [hclose, pure, Except.pure, Except.ok.injEq, Prod.mk.injEq] at h
    obtain ⟨rfl, rfl⟩ := h
    exact ⟨ts, ms, hts, rfl, hspells.append (.singleton hmid)⟩
  · rintro ⟨ts, ms, hts, rfl, hspells⟩
    obtain ⟨mid, hspells, hmark⟩ := hspells.of_append
    obtain ⟨_, hmid, hnil⟩ := hmark.of_mark
    cases hnil
    have hlength := hts.length_le fun ts m hts => by
      obtain ⟨body, ds, us, rfl, -⟩ := hts
      simp
    have hle := hspells.length_le (hts.wellFormed fun _ _ => IsMember.wellFormed hread)
    have hall := membersFrom_of_items hread hts hspells hmid []
      (show _ < cs.length + 1 by omega)
    have hclose : closeObject ('}' :: rest) = (.ok (), rest) :=
      closeObject_close (skipBlanks_cons (by decide) rest)
    simp [members, bind, Except.bind, hall, hclose, pure, Except.pure, Object.ofList]

end Members

/-! ### Values -/

theorem value_list {cs r : List Char} (depth : ℕ) (h : skipBlanks cs = '[' :: r) :
    Read.value (depth + 1) cs =
      (items (Read.value depth) r).map fun (xs, rest) => (.array xs, rest) := by
  unfold Read.value
  simp only [h]

theorem value_object {cs r : List Char} (depth : ℕ) (h : skipBlanks cs = '{' :: r) :
    Read.value (depth + 1) cs =
      (members (Read.value depth) r).map fun (o, rest) => (.object o, rest) := by
  unfold Read.value
  simp only [h]

theorem value_of_scalar? {cs : List Char} {result : Except Failure (Json × List Char)}
    (depth : ℕ) (h : scalar? (skipBlanks cs) = some result) : Read.value depth cs = result := by
  have hlist : ∀ r, skipBlanks cs ≠ '[' :: r := by
    intro r hr
    rw [hr] at h
    cases h
  have hobject : ∀ r, skipBlanks cs ≠ '{' :: r := by
    intro r hr
    rw [hr] at h
    cases h
  unfold Read.value
  dsimp only
  split
  · next heq => simp [heq, scalar?] at h
  · next r heq => exact absurd heq (hlist r)
  · next r heq => exact absurd heq (hobject r)
  · next r _ heq => exact absurd heq (hlist r)
  · next r _ heq => exact absurd heq (hobject r)
  · rw [h, Option.getD_some]

theorem isValue_of_value {depth : ℕ} {cs rest : List Char} {v : Json}
    (ih : ∀ d, depth = d + 1 → Reads (Read.value d) (IsValue d))
    (h : Read.value depth cs = .ok (v, rest)) :
    ∃ ts, IsValue depth ts v ∧ Spells ts cs rest := by
  unfold Read.value at h
  dsimp only at h
  split at h
  · cases h
  · cases h
  · cases h
  · next r depth heq =>
    obtain ⟨⟨xs, rest'⟩, hitems, hval⟩ := map_eq_ok.mp h
    obtain ⟨rfl, rfl⟩ := Prod.mk.inj hval
    obtain ⟨us, hus, hspells⟩ := (items_eq_ok_iff (ih depth rfl)).mp hitems
    refine ⟨_ :: (us ++ [Token.mark ']']), .inr (.inl ⟨us, xs, rfl, hus, rfl⟩), ?_⟩
    exact .cons (by rw [heq]; rfl) hspells
  · next r depth heq =>
    obtain ⟨⟨o, rest'⟩, hmembers, hval⟩ := map_eq_ok.mp h
    obtain ⟨rfl, rfl⟩ := Prod.mk.inj hval
    obtain ⟨us, ms, hus, rfl, hspells⟩ := (members_eq_ok_iff (ih depth rfl)).mp hmembers
    refine ⟨_ :: (us ++ [Token.mark '}']), .inr (.inr ⟨us, ms, rfl, hus, rfl⟩), ?_⟩
    exact .cons (by rw [heq]; rfl) hspells
  · cases hscalar : scalar? (skipBlanks cs) with
    | none => simp [hscalar] at h
    | some result =>
      rw [hscalar, Option.getD_some] at h
      obtain ⟨t, ht, htext⟩ := Token.Denotes.of_scalar? (h ▸ hscalar)
      exact ⟨[t], isValue_of_denotes ht _, .singleton htext⟩

/-- The cases of a value, for a depth that is `d + 1` for the brackets. -/
theorem IsValue.cases {depth : ℕ} {ts : List Token} {v : Json} (h : IsValue depth ts v) :
    (∃ t : Token, ts = [t] ∧ t.Denotes v) ∨
    (∃ d us xs, depth = d + 1 ∧ Bracketed '[' ']' ts us ∧ Items (IsValue d) true us xs ∧
      v = .array xs) ∨
    (∃ d us ms, depth = d + 1 ∧ Bracketed '{' '}' ts us ∧
      Items (IsMember (IsValue d)) true us ms ∧ v = mkObject ms) := by
  cases depth with
  | zero => exact .inl h
  | succ d =>
    rcases h with h | ⟨us, xs, h⟩ | ⟨us, ms, h⟩
    · exact .inl h
    · exact .inr (.inl ⟨d, us, xs, rfl, h⟩)
    · exact .inr (.inr ⟨d, us, ms, rfl, h⟩)

theorem isChain_bracketed {opening closing : Char} {ts us : List Token}
    (h : Bracketed opening closing ts us) (hus : us.IsChain Token.Apart) :
    ts.IsChain Token.Apart := by
  rw [h, ← List.singleton_append]
  have hinner : (us ++ [Token.mark closing]).IsChain Token.Apart :=
    isChain_append_mark hus (List.isChain_singleton _) (by simp [Token.IsMark])
  refine (List.isChain_singleton _).append hinner fun t ht u _ => ?_
  obtain rfl : .mark opening = t := by simpa using ht
  exact .inl trivial

theorem wellFormed_bracketed {opening closing : Char} {ts us : List Token}
    (h : Bracketed opening closing ts us) (ho : isMark opening = true)
    (hc : isMark closing = true) (hus : ∀ t ∈ us, t.WellFormed) : ∀ t ∈ ts, t.WellFormed := by
  rw [h]
  refine List.forall_mem_cons.mpr ⟨ho, List.forall_mem_append.mpr ⟨hus, ?_⟩⟩
  simpa [Token.WellFormed] using hc

section Value

variable {depth : ℕ} {ts : List Token} {v : Json}

theorem value_of_isValue {cs rest : List Char}
    (ih : ∀ d, depth = d + 1 → Reads (Read.value d) (IsValue d)) (h : IsValue depth ts v)
    (hspells : Spells ts cs rest) (hrest : Delimited rest) :
    Read.value depth cs = .ok (v, rest) := by
  rcases h.cases with ⟨t, rfl, ht⟩ | ⟨d, us, xs, rfl, rfl, hus, rfl⟩ |
    ⟨d, us, ms, rfl, rfl, hus, rfl⟩
  · obtain _ | ⟨hskip, hnil⟩ := hspells
    cases hnil
    exact value_of_scalar? depth (hskip ▸ ht.scalar?_append hrest)
  · obtain ⟨mid, hskip, hspells⟩ := hspells.of_mark
    rw [value_list d hskip, (items_eq_ok_iff (ih d rfl)).mpr ⟨us, hus, hspells⟩]
    rfl
  · obtain ⟨mid, hskip, hspells⟩ := hspells.of_mark
    rw [value_object d hskip, (members_eq_ok_iff (ih d rfl)).mpr ⟨us, ms, hus, rfl, hspells⟩]
    rfl

theorem wellFormed_of_isValue (ih : ∀ d, depth = d + 1 → Reads (Read.value d) (IsValue d))
    (h : IsValue depth ts v) : ∀ t ∈ ts, t.WellFormed := by
  rcases h.cases with ⟨t, rfl, ht⟩ | ⟨d, us, xs, rfl, hts, hus, rfl⟩ |
    ⟨d, us, ms, rfl, hts, hus, rfl⟩
  · simpa using ht.wellFormed
  · exact wellFormed_bracketed hts (by decide) (by decide)
      (hus.wellFormed fun _ _ => (ih d rfl).wellFormed)
  · exact wellFormed_bracketed hts (by decide) (by decide)
      (hus.wellFormed fun _ _ => IsMember.wellFormed (ih d rfl))

theorem starts_of_isValue (h : IsValue depth ts v) :
    ∃ t us, ts = t :: us ∧ t ≠ .mark ']' := by
  rcases h.cases with ⟨t, rfl, ht⟩ | ⟨d, us, xs, rfl, rfl, -⟩ | ⟨d, us, ms, rfl, rfl, -⟩
  · refine ⟨t, [], rfl, ?_⟩
    rintro rfl
    cases ht
  · exact ⟨_, _, rfl, by simp⟩
  · exact ⟨_, _, rfl, by simp⟩

theorem apart_of_isValue (ih : ∀ d, depth = d + 1 → Reads (Read.value d) (IsValue d))
    (h : IsValue depth ts v) : ts.IsChain Token.Apart := by
  rcases h.cases with ⟨t, rfl, ht⟩ | ⟨d, us, xs, rfl, hts, hus, rfl⟩ |
    ⟨d, us, ms, rfl, hts, hus, rfl⟩
  · exact List.isChain_singleton t
  · exact isChain_bracketed hts (hus.apart fun _ _ => (ih d rfl).apart)
  · exact isChain_bracketed hts (hus.apart fun _ _ => IsMember.apart fun _ _ => (ih d rfl).apart)

end Value

/-- The reader of values takes the values of the grammar. -/
theorem reads_value (depth : ℕ) : Reads (Read.value depth) (IsValue depth) := by
  -- Scalars are read at any depth; only brackets need the readers of the depth below.
  have hstep : ∀ depth, (∀ d, depth = d + 1 → Reads (Read.value d) (IsValue d)) →
      Reads (Read.value depth) (IsValue depth) := fun depth ih =>
    ⟨⟨value_of_isValue ih, wellFormed_of_isValue ih, starts_of_isValue⟩, isValue_of_value ih,
      apart_of_isValue ih⟩
  induction depth with
  | zero => exact hstep 0 fun d hd => absurd hd (by omega)
  | succ depth ih =>
    refine hstep (depth + 1) fun d hd => ?_
    obtain rfl : depth = d := by omega
    exact ih

/-- A whole text is read if it spells what its reader takes, with nothing but blanks behind it. -/
theorem run_of_spells {α : Type} {read : Reader α} {item : List Token → α → Prop}
    (hread : Takes read item) {ts : List Token} {a : α} (h : item ts a) {text : String}
    {rest : List Char} (hspells : Spells ts text.toList rest) (hrest : skipBlanks rest = []) :
    Reader.run read text = .ok a := by
  have htaken := hread.complete h hspells (delimited_of_skipBlanks_eq_nil hrest)
  simp [Reader.run, htaken, hrest]

/-- **Reading JSON.**  A text is read as a value exactly if the grammar makes that value of its
tokens, with lists and objects nested at most `maxDepth` deep. -/
theorem parse_eq_ok_iff {text : String} {v : Json} :
    parse text = .ok v ↔ ∃ ts, tokens text.toList = some ts ∧ IsValue maxDepth ts v := by
  have hreads := reads_value maxDepth
  constructor
  · intro h
    rw [parse, Reader.run] at h
    split at h
    · cases h
    · next v' rest hvalue =>
      split at h
      · next hrest =>
        obtain rfl := Except.ok.inj h
        obtain ⟨ts, hts, hspells⟩ := hreads.sound hvalue
        exact ⟨ts, tokens_of_spells hspells (hreads.wellFormed hts) (hreads.apart hts) hrest, hts⟩
      · cases h
  · rintro ⟨ts, htokens, hts⟩
    -- The text spells its tokens, and the reader takes them up to the blanks at the end.
    obtain ⟨-, rest, hspells, hrest⟩ := spells_of_tokens htokens
    exact run_of_spells hreads.toTakes hts hspells hrest

end SageEditor.Json
