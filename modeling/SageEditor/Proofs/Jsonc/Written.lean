/-
Written JSON as JSON with comments.

* `Takes` — the token of JSON with comments that the scanner makes of a token of JSON;
* `lexes_of_spells` — a text of JSON tokens has these tokens;
* `Tree.ofJson` — a written value as a tree;
* `isDocument_of_spells` — what is written of a value is a document with its tree.

Design notes: JSON has fewer blanks, escapes and words than its dialect with comments, so each of
its tokens is scanned on its own.  What has to be shown is that nothing in it begins a comment or
another word, and that the tokens stand apart.
-/
import SageEditor.Proofs.Json.Written
import SageEditor.Proofs.Jsonc.Grammar

namespace SageEditor.Jsonc

open Json (Spells Delimited escaped)
open List (Forall₂)

/-! ### Tokens -/

/-- The token that is scanned where a token of JSON stands. -/
inductive Takes : Json.Token → Token → Prop
  | openBrace : Takes (.mark '{') .openBrace
  | closeBrace : Takes (.mark '}') .closeBrace
  | openBracket : Takes (.mark '[') .openBracket
  | closeBracket : Takes (.mark ']') .closeBracket
  | comma : Takes (.mark ',') .comma
  | colon : Takes (.mark ':') .colon
  | null : Takes (.atom ['n', 'u', 'l', 'l']) .null
  | true : Takes (.atom ['t', 'r', 'u', 'e']) (.bool true)
  | false : Takes (.atom ['f', 'a', 'l', 's', 'e']) (.bool false)
  | number {n : Json.Numeral} {cs : List Char} (h : Json.NumeralText n cs) :
    Takes (.atom cs) (.number (String.ofList cs) n)
  | string (s : String) : Takes (.string (escaped s)) (.string s)

namespace Scan

variable {cs rest : List Char}

theorem codePoint?_toNat (c : Char) : codePoint? c.toNat = some c := by
  have hvalid : c.toNat.isValidChar := c.valid
  rw [codePoint?, dif_pos hvalid]
  rfl

/-- A character is read back from what is written of it. -/
theorem stringRest_escape (start read : List Char) (c : Char) (rest : List Char) :
    stringRest true start read (Json.Write.escape c rest) =
      stringRest true start (c :: read) rest := by
  unfold Json.Write.escape
  split
  case h_8 hquote hslash _ _ _ _ _ =>
    split
    · next hcontrol =>
      have hdigits : ∀ n < 32,
          Json.Read.hexValues? '0' '0' (Nat.digitChar (n / 16)) (Nat.digitChar (n % 16)) =
            some n := by
        decide
      have hcode := hdigits c.toNat hcontrol
      simp [Json.Write.hexPair, stringRest, hcode, codePoint?_toNat]
    · rw [stringRest]
      · exact if_neg hquote
      all_goals
        intros
        exact absurd ‹c = '\\'› hslash
  all_goals simp [stringRest, Json.Read.plainEscape?]

theorem stringRest_escaped (start : List Char) (s : String) (rest : List Char) :
    stringRest true start [] (escaped s ++ '"' :: rest) = .ok (s, rest) := by
  have hchars : ∀ (cs read : List Char),
      stringRest true start read (cs.foldr Json.Write.escape ('"' :: rest)) =
        .ok (String.ofList (read.reverse ++ cs), rest) := by
    intro cs
    induction cs with
    | nil => simp [stringRest]
    | cons c cs ih =>
      intro read
      rw [List.foldr_cons, stringRest_escape, ih]
      simp
  rw [escaped, ← Json.foldr_escape, hchars]
  simp

theorem isAlphanumeric_of_not_isAtomChar {c : Char} (h : Json.isAtomChar c = false) :
    Text.isAlphanumeric c = false := by
  have hall : [' ', '\n', '\t', '\r', '{', '}', '[', ']', ':', ',', '"'].all
      (fun c => !Text.isAlphanumeric c) = true := by decide
  have hcases : c ∈ [' ', '\n', '\t', '\r', '{', '}', '[', ']', ':', ',', '"'] := by
    by_contra hnot
    simp only [List.mem_cons, List.not_mem_nil, or_false, not_or] at hnot
    simp [Json.isAtomChar, Json.Read.isBlank, Json.isMark, hnot] at h
  simpa using List.all_eq_true.mp hall c hcases

/-- A fixed word is read up to a delimiter. -/
theorem literal?_append (word : List Char) (hrest : Delimited rest) :
    literal? word (word ++ rest) = some rest := by
  have hfront : word.isPrefixOf (word ++ rest) = true :=
    List.isPrefixOf_iff_prefix.mpr (List.prefix_append word rest)
  have hdrop : (word ++ rest).drop word.length = rest := List.drop_left
  have hnext : rest.head?.any Text.isAlphanumeric = false := by
    cases rest with
    | nil => rfl
    | cons c rest => simp [isAlphanumeric_of_not_isAtomChar (hrest c rfl)]
  simp [literal?, hfront, hdrop, hnext]

theorem number_append {n : Json.Numeral} (h : Json.NumeralText n cs) (hrest : Delimited rest) :
    number (cs ++ rest) = .ok (.number (String.ofList cs) n, rest) := by
  simp [number, Json.Numeral.scan_append h hrest]

theorem literal?_of_ne {c d : Char} (h : c ≠ d) (word cs : List Char) :
    literal? (c :: word) (d :: cs) = none := by
  simp [literal?, h]

theorem number_token_append {n : Json.Numeral} (h : Json.NumeralText n cs) (hrest : Delimited rest) :
    token (cs ++ rest) = .ok (.number (String.ofList cs) n, rest) := by
  have hnumber := number_append h hrest
  obtain ⟨hhead, -⟩ := Json.Numeral.took_of_scan (Json.Numeral.scan_append h hrest)
  cases cs with
  | nil => exact absurd rfl (Json.isAtomChar_of_numeralText h).1
  | cons c cs =>
    have hc : (c == '-' || c.isDigit) = true := by simpa using hhead
    have hne : ∀ d ∈ ['{', '}', '[', ']', ',', ':', '"', '\'', '/'], c ≠ d := by
      rintro d hd rfl
      have hnone : ['{', '}', '[', ']', ',', ':', '"', '\'', '/'].all
          (fun d => !(d == '-' || d.isDigit)) = true := by decide
      have hno := List.all_eq_true.mp hnone c hd
      rw [hc] at hno
      cases hno
    rw [List.cons_append] at hnumber ⊢
    rw [token]
    · rw [plain, if_pos (by simpa using hc), hnumber]
    all_goals simp [hne]

/-- A token of JSON is scanned up to its end. -/
theorem token_append {t : Json.Token} {t' : Token} (h : Takes t t')
    (hrest : t.IsMark ∨ Delimited rest) : token (t.text ++ rest) = .ok (t', rest) := by
  cases h with
  | null =>
    have hword := literal?_append ['n', 'u', 'l', 'l'] (hrest.resolve_left id)
    have htrue := literal?_of_ne (by decide : 't' ≠ 'n') ['r', 'u', 'e'] ('u' :: 'l' :: 'l' :: rest)
    have hfalse := literal?_of_ne (by decide : 'f' ≠ 'n') ['a', 'l', 's', 'e']
      ('u' :: 'l' :: 'l' :: rest)
    simp only [List.cons_append, List.nil_append] at hword
    simp [Json.Token.text, token, plain, htrue, hfalse, hword]
  | true =>
    have hword := literal?_append ['t', 'r', 'u', 'e'] (hrest.resolve_left id)
    simp only [List.cons_append, List.nil_append] at hword
    simp [Json.Token.text, token, plain, hword]
  | false =>
    have hword := literal?_append ['f', 'a', 'l', 's', 'e'] (hrest.resolve_left id)
    have htrue := literal?_of_ne (by decide : 't' ≠ 'f') ['r', 'u', 'e']
      ('a' :: 'l' :: 's' :: 'e' :: rest)
    simp only [List.cons_append, List.nil_append] at hword
    simp [Json.Token.text, token, plain, htrue, hword]
  | number h => exact number_token_append h (hrest.resolve_left id)
  | string s =>
    have hstring := stringRest_escaped ('"' :: (escaped s ++ '"' :: rest)) s rest
    simp [Json.Token.text, token, hstring, bind, Except.bind, pure, Except.pure]
  | _ => rfl

/-! ### Blanks -/

theorem skipFrom_blank {c : Char} (hslash : c ≠ '/') (start cs : List Char) :
    skipFrom .blank start (c :: cs) =
      if Text.isWhiteSpace c then skipFrom .blank start cs else .ok (c :: cs) := by
  rw [skipFrom] <;> simp [hslash]

/-- The blanks of JSON are blank here too. -/
theorem skip_eq_skip_skipBlanks (cs : List Char) : skip cs = skip (Json.Read.skipBlanks cs) := by
  have hblanks : ∀ c, Json.Read.isBlank c = true → c ≠ '/' ∧ Text.isWhiteSpace c = true := by
    intro c hc
    have hcases : c = ' ' ∨ c = '\n' ∨ c = '\t' ∨ c = '\r' := by
      simpa [Json.Read.isBlank, or_assoc] using hc
    rcases hcases with rfl | rfl | rfl | rfl <;> decide
  induction cs with
  | nil => rfl
  | cons c cs ih =>
    by_cases hc : Json.Read.isBlank c = true
    · have hrest : Json.Read.skipBlanks (c :: cs) = Json.Read.skipBlanks cs :=
        List.dropWhile_cons_of_pos hc
      obtain ⟨hslash, hwhite⟩ := hblanks c hc
      rw [hrest, ← ih, skip, skipFrom_blank hslash, if_pos hwhite]
      rfl
    · rw [Json.skipBlanks_cons (by simpa using hc)]

theorem isWhiteSpace_of_isDigit {c : Char} (h : c.isDigit = true) :
    Text.isWhiteSpace c = false := by
  have hdigits : ∀ n < 58, 48 ≤ n → Text.whiteSpace.contains n = false := by decide
  have hrange : 48 ≤ c.toNat ∧ c.toNat ≤ 57 := by simpa [Char.isDigit, UInt32.le_iff_toNat_le] using h
  exact hdigits c.toNat (by omega) hrange.1

/-- No token of JSON begins like a blank or a comment. -/
theorem head_of_takes {t : Json.Token} {t' : Token} {c : Char} {text : List Char}
    (h : Takes t t') (htext : t.text = c :: text) : c ≠ '/' ∧ Text.isWhiteSpace c = false := by
  cases h with
  | @number n cs h =>
    have hscan := Json.Numeral.scan_append h Json.delimited_nil
    obtain ⟨hhead, -⟩ := Json.Numeral.took_of_scan hscan
    rw [List.append_nil, show cs = c :: text from htext] at hhead
    have hc : c = '-' ∨ c.isDigit = true := by simpa using hhead
    rcases hc with rfl | hdigit
    · decide
    · refine ⟨?_, isWhiteSpace_of_isDigit hdigit⟩
      rintro rfl
      exact absurd hdigit (by decide)
  | _ =>
    obtain ⟨rfl, -⟩ := List.cons.inj htext
    decide

/-- A text goes on with a token of JSON. -/
theorem next_of_skipBlanks {t : Json.Token} {t' : Token} (h : Takes t t') (hwf : t.WellFormed)
    (hskip : Json.Read.skipBlanks cs = t.text ++ rest) (hrest : t.IsMark ∨ Delimited rest) :
    ∃ behind, next cs = .ok (some (behind, t', rest)) := by
  obtain ⟨c, text, htext, -⟩ := hwf.head_text
  have hhead := head_of_takes h htext
  have hpass : skip cs = .ok (t.text ++ rest) := by
    rw [skip_eq_skip_skipBlanks, hskip, htext, List.cons_append, skip, skipFrom_blank hhead.1,
      hhead.2]
    rfl
  refine ⟨(t.text ++ rest).length, ?_⟩
  have htoken := token_append h hrest
  rw [htext, List.cons_append] at hpass htoken ⊢
  simp [next, hpass, htoken, bind, Except.bind, pure, Except.pure]

end Scan

/-! ### Texts -/

theorem wellFormed_of_takes {t : Json.Token} {t' : Token} (h : Takes t t') : t.WellFormed := by
  cases h with
  | null => exact Json.Token.Denotes.null.wellFormed
  | true => exact Json.Token.Denotes.true.wellFormed
  | false => exact Json.Token.Denotes.false.wellFormed
  | number h => exact Json.isAtomChar_of_numeralText h
  | string s => exact Json.wellFormed_of_stringText (Json.stringText_escaped s)
  | _ =>
    show Json.isMark _ = true
    decide

theorem wellFormed_of_forall₂ {ts : List Json.Token} {us : List Token} (h : Forall₂ Takes ts us) :
    ∀ t ∈ ts, t.WellFormed := by
  induction h with
  | nil => simp
  | cons ht _ ih => exact List.forall_mem_cons.mpr ⟨wellFormed_of_takes ht, ih⟩

/-- A text of JSON is scanned token by token. -/
theorem lexes_of_spells {ts : List Json.Token} {us : List Token} {cs rest : List Char}
    (h : Spells ts cs rest) (hus : Forall₂ Takes ts us) (happart : ts.IsChain Json.Token.Apart)
    (hrest : Json.Read.skipBlanks rest = []) : Lexes us cs := by
  induction h generalizing us with
  | nil rest =>
    cases hus
    have hskip : Scan.skip rest = .ok [] := by
      rw [Scan.skip_eq_skip_skipBlanks, hrest]
      rfl
    exact .nil (by simp [Scan.next, hskip, bind, Except.bind, pure, Except.pure])
  | @cons t ts cs mid rest hskip h ih =>
    obtain _ | ⟨ht, hus⟩ := hus
    have hnext := Json.isMark_or_delimited h (wellFormed_of_forall₂ hus) happart hrest
    obtain ⟨behind, hfound⟩ := Scan.next_of_skipBlanks ht (wellFormed_of_takes ht) hskip hnext
    exact .cons hfound (ih hus happart.tail hrest)

/-! ### Trees -/

namespace Tree

mutual

/-- A written value as a tree. -/
def ofJson : Json → Tree
  | .null => .null
  | .bool b => .bool b
  | .number n => .number n.text n.numeral
  | .string s => .string s
  | .array xs => .array (ofItems xs)
  | .object ms => .object (ofMembers ms)

def ofItems : List Json → List Tree
  | [] => []
  | x :: xs => ofJson x :: ofItems xs

def ofMembers : List (String × Json) → List (String × Tree)
  | [] => []
  | (name, v) :: ms => (name, ofJson v) :: ofMembers ms

end

end Tree

theorem exists_takes_items {xs : List Json} (h : ∀ x ∈ xs, ∃ us, Forall₂ Takes (Json.written x) us ∧
    IsPart (.value (.ofJson x)) us) :
    ∃ us, Forall₂ Takes (Json.writtenItems true xs) us ∧
      Forall₂ Takes (Json.writtenItems false xs) (separator (!xs.isEmpty) ++ us) ∧
      IsPart (.items (Tree.ofItems xs)) us := by
  induction xs with
  | nil => exact ⟨[], .nil, .nil, .noItem⟩
  | cons x xs ih =>
    obtain ⟨hx, hxs⟩ := List.forall_mem_cons.mp h
    obtain ⟨ts, hts, hpart⟩ := hx
    obtain ⟨us, -, hus, hparts⟩ := ih hxs
    have hall := List.rel_append hts hus
    exact ⟨_, hall, .cons .comma hall, .item hpart hparts _⟩

theorem exists_takes_members {ms : List (String × Json)}
    (h : ∀ m ∈ ms, ∃ us, Forall₂ Takes (Json.written m.2) us ∧ IsPart (.value (.ofJson m.2)) us) :
    ∃ us, Forall₂ Takes (Json.writtenMembers true ms) us ∧
      Forall₂ Takes (Json.writtenMembers false ms) (separator (!ms.isEmpty) ++ us) ∧
      IsPart (.members (Tree.ofMembers ms)) us := by
  induction ms with
  | nil => exact ⟨[], .nil, .nil, .noMember⟩
  | cons m ms ih =>
    obtain ⟨name, v⟩ := m
    obtain ⟨hv, hms⟩ := List.forall_mem_cons.mp h
    obtain ⟨ts, hts, hpart⟩ := hv
    obtain ⟨us, -, hus, hparts⟩ := ih hms
    have hall := Forall₂.cons (Takes.string name) (.cons .colon (List.rel_append hts hus))
    exact ⟨_, hall, .cons .comma hall, .member rfl hpart hparts _⟩

/-- The tokens of a written value are those of its tree. -/
theorem exists_takes {p : Json.Number → Prop} {v : Json} (h : Json.Holds p v) :
    ∃ us, Forall₂ Takes (Json.written v) us ∧ IsPart (.value (.ofJson v)) us := by
  induction h with
  | null => exact ⟨_, .cons .null .nil, .null⟩
  | bool b =>
    refine ⟨[.bool b], ?_, .bool b⟩
    cases b
    · exact .cons .false .nil
    · exact .cons .true .nil
  | @number n _ =>
    have htakes := Takes.number n.numeralText
    rw [String.ofList_toList] at htakes
    exact ⟨_, .cons htakes .nil, .number n.text n.numeral⟩
  | string s => exact ⟨_, .cons (.string s) .nil, .string s⟩
  | array _ ih =>
    obtain ⟨us, hus, -, hpart⟩ := exists_takes_items ih
    exact ⟨_, .cons .openBracket (List.rel_append hus (.cons .closeBracket .nil)), .array hpart⟩
  | object _ _ ih =>
    obtain ⟨us, hus, -, hpart⟩ := exists_takes_members ih
    exact ⟨_, .cons .openBrace (List.rel_append hus (.cons .closeBrace .nil)), .object hpart⟩

/-- A text that spells what is written of a value is a document with its tree. -/
theorem isDocument_of_spells {p : Json.Number → Prop} {v : Json} (h : Json.Holds p v)
    {cs rest : List Char} (hspells : Spells (Json.written v) cs rest)
    (hrest : Json.Read.skipBlanks rest = []) : IsDocument cs (.ofJson v) := by
  obtain ⟨us, hus, hpart⟩ := exists_takes h
  exact ⟨us, lexes_of_spells hspells hus (Json.apart_written h) hrest, hpart⟩

/-! ### Values -/

mutual

/-- Objects are in order, however their members are written. -/
theorem inOrder_value : ∀ v : Tree, v.value.InOrder
  | .null => .null
  | .bool b => .bool b
  | .number spelling n => by
    rw [Tree.value, Reading.numberValue]
    cases n.number with
    | ok x => exact .number trivial
    | error e => exact .string spelling
  | .string s => .string s
  | .array xs => .array (inOrder_values xs)
  | .object ms => Json.Holds.mkObject (inOrder_memberValues ms)

theorem inOrder_values : ∀ xs : List Tree, ∀ x ∈ Tree.values xs, x.InOrder
  | [] => by simp [Tree.values]
  | x :: xs => List.forall_mem_cons.mpr ⟨inOrder_value x, inOrder_values xs⟩

theorem inOrder_memberValues : ∀ ms : List (String × Tree), ∀ m ∈ Tree.memberValues ms, m.2.InOrder
  | [] => by simp [Tree.memberValues]
  | (_, v) :: ms => List.forall_mem_cons.mpr ⟨inOrder_value v, inOrder_memberValues ms⟩

end

/-- Whatever is read of a text has its objects in order. -/
theorem inOrder_of_parse {text : String} {doc : Option Json} (h : parse text = .ok doc) :
    (doc.getD (.object [])).InOrder := by
  cases doc with
  | none => exact .object List.Pairwise.nil (by simp)
  | some v =>
    obtain ⟨tree, -, rfl⟩ := parse_eq_ok_some_iff.mp h
    exact inOrder_value tree

theorem memberValues_ofMembers {ms : List (String × Json)}
    (h : ∀ m ∈ ms, (Tree.ofJson m.2).value = m.2) :
    Tree.memberValues (Tree.ofMembers ms) = ms := by
  induction ms with
  | nil => rfl
  | cons m ms ih =>
    obtain ⟨hm, hms⟩ := List.forall_mem_cons.mp h
    rw [Tree.ofMembers, Tree.memberValues, hm, ih hms]

theorem values_ofItems {xs : List Json} (h : ∀ x ∈ xs, (Tree.ofJson x).value = x) :
    Tree.values (Tree.ofItems xs) = xs := by
  induction xs with
  | nil => rfl
  | cons x xs ih =>
    obtain ⟨hx, hxs⟩ := List.forall_mem_cons.mp h
    rw [Tree.ofItems, Tree.values, hx, ih hxs]

/-- The tree of a value with whole numbers has that value. -/
theorem value_ofJson {v : Json} (h : Json.Holds Json.Number.IsWhole v) :
    (Tree.ofJson v).value = v := by
  induction h with
  | null => rfl
  | bool b => rfl
  | number hn =>
    rw [Tree.ofJson, Tree.value, Reading.numberValue, Json.Number.number_of_isWhole hn]
  | string s => rfl
  | array _ ih => rw [Tree.ofJson, Tree.value, values_ofItems ih]
  | object hordered _ ih =>
    rw [Tree.ofJson, Tree.value, memberValues_ofMembers ih, Json.mkObject,
      Json.Object.ofList_of_ordered hordered]

end SageEditor.Jsonc
