/-
The tokens of written values.

* `written` — the tokens of a value, in the order of its items and members;
* `spells_value`, `spells_lines` — without blanks and over several lines, they are what is written;
* `Nested` — how deep the lists and objects of a value are nested;
* `isValue_written` — in the grammar, the tokens of a value in order with whole numbers are that
  value.

Design notes: the writers put their text in front of a rest, and so do the statements about it,
so that the induction over a value goes through whatever is behind it.  The tokens are those of
any value, and only that they are read as this one needs the order of the members.
-/
import SageEditor.Proofs.Decimal.Shortest
import SageEditor.Proofs.Json.Exchange
import SageEditor.Proofs.Json.Ordered

namespace SageEditor.Json

/-! ### Tokens -/

mutual

/-- The tokens of a value. -/
def written : Json → List Token
  | .null => [.atom ['n', 'u', 'l', 'l']]
  | .bool true => [.atom ['t', 'r', 'u', 'e']]
  | .bool false => [.atom ['f', 'a', 'l', 's', 'e']]
  | .number n => [.atom n.text.toList]
  | .string s => [.string (escaped s)]
  | .array xs => .mark '[' :: (writtenItems true xs ++ [.mark ']'])
  | .object ms => .mark '{' :: (writtenMembers true ms ++ [.mark '}'])

/-- The tokens of items. -/
def writtenItems (first : Bool) : List Json → List Token
  | [] => []
  | x :: xs => comma first ++ (written x ++ writtenItems false xs)

/-- The tokens of members. -/
def writtenMembers (first : Bool) : List (String × Json) → List Token
  | [] => []
  | (name, v) :: ms =>
    comma first ++ (.string (escaped name) :: .mark ':' :: (written v ++ writtenMembers false ms))

end

/-! ### Their texts -/

theorem spells_token {t : Token} (h : t.WellFormed) (rest : List Char) :
    Spells [t] (t.text ++ rest) rest := by
  obtain ⟨c, cs, htext, hblank⟩ := h.head_text
  refine .singleton ?_
  rw [htext, List.cons_append, skipBlanks_cons hblank]

theorem spells_mark {c : Char} (h : isMark c = true) {ts : List Token} {cs rest : List Char}
    (hts : Spells ts cs rest) : Spells (.mark c :: ts) (c :: cs) rest :=
  (spells_token (t := .mark c) h cs).append hts

theorem spells_string (s : String) {ts : List Token} {cs rest : List Char}
    (hts : Spells ts cs rest) : Spells (.string (escaped s) :: ts) (Write.string s cs) rest := by
  have htoken := spells_token (wellFormed_of_stringText (stringText_escaped s)) cs
  rw [Write.string, foldr_escape]
  simpa [Token.text, escaped] using htoken.append hts

theorem spells_newline {level : ℕ} {ts : List Token} {cs rest : List Char} (hne : ts ≠ [])
    (hts : Spells ts cs rest) : Spells ts (Write.newline level cs) rest := by
  have hblanks : Read.skipBlanks (Write.newline level cs) = Read.skipBlanks cs := by
    rw [Write.newline, Read.skipBlanks, List.dropWhile_cons_of_pos (by decide),
      List.dropWhile_append_of_pos fun c hc => ?_, Read.skipBlanks]
    rw [List.eq_of_mem_replicate hc]
    decide
  refine Spells.of_skipBlanks ?_ hne
  rw [hblanks]
  exact hts.skipBlanks hne

theorem written_ne_nil (v : Json) : written v ≠ [] := by
  cases v with
  | bool b => cases b <;> simp [written]
  | _ => simp [written]

/-- What comes after a colon and a blank. -/
theorem spells_colon {ts : List Token} {cs rest : List Char} (hne : ts ≠ [])
    (hts : Spells ts cs rest) : Spells (.mark ':' :: ts) (':' :: ' ' :: cs) rest := by
  refine spells_mark (by decide) (Spells.of_skipBlanks ?_ hne)
  have hblank : Read.skipBlanks (' ' :: cs) = Read.skipBlanks cs :=
    List.dropWhile_cons_of_pos (by decide)
  rw [hblank]
  exact hts.skipBlanks hne

mutual

theorem spells_value (v : Json) (rest : List Char) :
    Spells (written v) (Write.value v rest) rest := by
  match v with
  | .null => exact spells_token Token.Denotes.null.wellFormed rest
  | .bool true => exact spells_token Token.Denotes.true.wellFormed rest
  | .bool false => exact spells_token Token.Denotes.false.wellFormed rest
  | .number n => exact spells_token (t := .atom _) (isAtomChar_of_numeralText n.numeralText) rest
  | .string s => exact spells_string s (.nil rest)
  | .array [] => exact spells_mark (by decide) (spells_mark (by decide) (.nil rest))
  | .array (x :: xs) =>
    have hclose : Spells [.mark ']'] (']' :: rest) rest := spells_mark (by decide) (.nil rest)
    have hitems := (spells_value x _).append (spells_itemsAfter xs (']' :: rest))
    exact spells_mark (by decide) (hitems.append hclose)
  | .object [] => exact spells_mark (by decide) (spells_mark (by decide) (.nil rest))
  | .object ((name, v) :: ms) =>
    have hclose : Spells [.mark '}'] ('}' :: rest) rest := spells_mark (by decide) (.nil rest)
    have hmembers := (spells_value v _).append (spells_membersAfter ms ('}' :: rest))
    have hfirst := spells_string name (spells_mark (c := ':') (by decide) hmembers)
    exact spells_mark (by decide) (hfirst.append hclose)

theorem spells_itemsAfter (xs : List Json) (rest : List Char) :
    Spells (writtenItems false xs) (Write.itemsAfter xs rest) rest := by
  match xs with
  | [] => exact .nil rest
  | x :: xs =>
    have hitems := (spells_value x _).append (spells_itemsAfter xs rest)
    exact spells_mark (by decide) hitems

theorem spells_membersAfter (ms : List (String × Json)) (rest : List Char) :
    Spells (writtenMembers false ms) (Write.membersAfter ms rest) rest := by
  match ms with
  | [] => exact .nil rest
  | (name, v) :: ms =>
    have hmembers := (spells_value v _).append (spells_membersAfter ms rest)
    exact spells_mark (by decide) (spells_string name (spells_mark (by decide) hmembers))

end

mutual

theorem spells_lines (level : ℕ) (v : Json) (rest : List Char) :
    Spells (written v) (Write.lines level v rest) rest := by
  match v with
  | .null | .bool _ | .number _ | .string _ | .array [] | .object [] => exact spells_value _ rest
  | .array (x :: xs) =>
    have hclose : Spells [.mark ']'] (Write.newline level (']' :: rest)) rest :=
      spells_newline (by simp) (spells_mark (by decide) (.nil rest))
    have hitems := (spells_lines (level + 1) x _).append
      (spells_itemLines (level + 1) xs (Write.newline level (']' :: rest)))
    have hne : written x ++ writtenItems false xs ++ [.mark ']'] ≠ [] := by simp
    exact spells_mark (by decide) (spells_newline hne (hitems.append hclose))
  | .object ((name, v) :: ms) =>
    have hclose : Spells [.mark '}'] (Write.newline level ('}' :: rest)) rest :=
      spells_newline (by simp) (spells_mark (by decide) (.nil rest))
    have hmembers := (spells_lines (level + 1) v _).append
      (spells_memberLines (level + 1) ms (Write.newline level ('}' :: rest)))
    have hne : written v ++ writtenMembers false ms ≠ [] := by simp [written_ne_nil]
    have hfirst := spells_string name (spells_colon hne hmembers)
    exact spells_mark (by decide) (spells_newline (by simp) (hfirst.append hclose))

theorem spells_itemLines (level : ℕ) (xs : List Json) (rest : List Char) :
    Spells (writtenItems false xs) (Write.itemLines level xs rest) rest := by
  match xs with
  | [] => exact .nil rest
  | x :: xs =>
    have hitems := (spells_lines level x _).append (spells_itemLines level xs rest)
    have hne : written x ++ writtenItems false xs ≠ [] := by simp [written_ne_nil]
    exact spells_mark (by decide) (spells_newline hne hitems)

theorem spells_memberLines (level : ℕ) (ms : List (String × Json)) (rest : List Char) :
    Spells (writtenMembers false ms) (Write.memberLines level ms rest) rest := by
  match ms with
  | [] => exact .nil rest
  | (name, v) :: ms =>
    have hmembers := (spells_lines level v _).append (spells_memberLines level ms rest)
    have hne : written v ++ writtenMembers false ms ≠ [] := by simp [written_ne_nil]
    have hmember := spells_string name (spells_colon hne hmembers)
    exact spells_mark (by decide) (spells_newline (by simp) hmember)

end

/-- More text behind tokens goes on where they end. -/
theorem Spells.append_text {ts : List Token} {cs rest : List Char} (h : Spells ts cs rest)
    (hwf : ∀ t ∈ ts, t.WellFormed) (more : List Char) : Spells ts (cs ++ more) (rest ++ more) := by
  induction h with
  | nil rest => exact .nil _
  | @cons t ts cs mid rest hskip _ ih =>
    refine .cons ?_ (ih fun u hu => hwf u (List.mem_cons_of_mem t hu))
    have hne : (Read.skipBlanks cs).isEmpty = false := by
      rw [hskip]
      simp [(hwf t List.mem_cons_self).text_ne_nil]
    rw [Read.skipBlanks] at hskip hne ⊢
    rw [List.dropWhile_append, hne, if_neg (by simp), hskip, List.append_assoc]

/-! ### Their values -/

theorem items_written {α : Type} {item : List Token → α → Prop} (f : α → Json) {as : List α}
    (h : ∀ a ∈ as, item (written (f a)) a) (first : Bool) :
    Items item first (writtenItems first (as.map f)) as := by
  induction as generalizing first with
  | nil => exact .nil
  | cons a as ih =>
    obtain ⟨ha, has⟩ := List.forall_mem_cons.mp h
    exact .cons ha (ih has false)

theorem members_written {value : List Token → Json → Prop} {ms : List (String × Json)}
    (h : ∀ m ∈ ms, value (written m.2) m.2) (first : Bool) :
    Items (IsMember value) first (writtenMembers first ms) ms := by
  induction ms generalizing first with
  | nil => exact .nil
  | cons m ms ih =>
    obtain ⟨hm, hms⟩ := List.forall_mem_cons.mp h
    have hmember : IsMember value (.string (escaped m.1) :: .mark ':' :: written m.2) m :=
      ⟨_, _, _, rfl, stringText_escaped m.1, (String.ofList_toList).symm, hm⟩
    exact .cons hmember (ih hms false)

/-- The tokens that are written stand apart. -/
theorem apart_written {p : Number → Prop} {v : Json} (h : Holds p v) :
    (written v).IsChain Token.Apart := by
  induction h with
  | bool b => cases b <;> exact List.isChain_singleton _
  | @array xs _ ih =>
    have hitems : Items (fun ts _ => ts.IsChain Token.Apart) true (writtenItems true (xs.map id))
        xs := items_written id ih true
    rw [List.map_id] at hitems
    exact isChain_bracketed rfl (hitems.apart fun _ _ h => h)
  | @object ms _ _ ih =>
    have hmembers : Items (IsMember fun ts _ => ts.IsChain Token.Apart) true
        (writtenMembers true ms) ms := members_written ih true
    exact isChain_bracketed rfl (hmembers.apart fun _ _ => IsMember.apart fun _ _ h => h)
  | _ => exact List.isChain_singleton _

/-- A whole number is read back. -/
theorem number_text {x : Number} (h : x.IsWhole) : Read.number x.text.toList = .ok (x, []) := by
  have hnumeral := numeral_append x.numeralText delimited_nil .endInValue
  rw [List.append_nil] at hnumeral
  simp [Read.number, hnumeral, Number.number_of_isWhole h, bind, Except.bind, pure, Except.pure]

/-- Lists and objects are nested at most `depth` deep. -/
def Nested : (depth : ℕ) → Json → Prop
  | 0, .array _ | 0, .object _ => False
  | depth + 1, .array xs => ∀ x ∈ xs, Nested depth x
  | depth + 1, .object ms => ∀ m ∈ ms, Nested depth m.2
  | _, _ => True

/-- What is written of a value is that value again. -/
theorem isValue_written {v : Json} (h : Holds Number.IsWhole v) {depth : ℕ}
    (hdepth : Nested depth v) :
    IsValue depth (written v) v := by
  induction h generalizing depth with
  | null => exact isValue_of_denotes .null depth
  | bool b => cases b <;> exact isValue_of_denotes (by constructor) depth
  | @number n hn =>
    have hatoms := isAtomChar_of_numeralText n.numeralText
    exact isValue_of_denotes (.number hatoms.2 (number_text hn)) depth
  | string s =>
    have hdenotes := Token.Denotes.string (stringText_escaped s)
    rw [String.ofList_toList] at hdenotes
    exact isValue_of_denotes hdenotes depth
  | @array xs _ ih =>
    cases depth with
    | zero => exact hdepth.elim
    | succ depth =>
      have hitems : Items (IsValue depth) true (writtenItems true (xs.map id)) xs :=
        items_written id (fun x hx => ih x hx (hdepth x hx)) true
      rw [List.map_id] at hitems
      exact .inr (.inl ⟨_, xs, rfl, hitems, rfl⟩)
  | @object ms hordered _ ih =>
    cases depth with
    | zero => exact hdepth.elim
    | succ depth =>
      have hmembers := members_written (fun m hm => ih m hm (hdepth m hm)) true
      refine .inr (.inr ⟨_, ms, rfl, hmembers, ?_⟩)
      rw [mkObject, Object.ofList_of_ordered hordered]

end SageEditor.Json
