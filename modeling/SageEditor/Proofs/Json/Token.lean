/-
The tokens of a JSON text.

* `Token` — a mark of punctuation, a word or number, or a string, as it is spelled;
* `tokens` — the token sequence of a text;
* `Spells` — a text begins with given tokens, with any blanks before each of them;
* `tokens_of_spells` — tokens that need no blanks between them are read back from such a text;
* `spells_of_tokens` — a text begins with its own tokens, and nothing but blanks follows.

Design notes: tokens are told apart by their characters alone.  Whether a word is one that JSON
knows, or a string has only permitted escapes, is left to the grammar.
-/
import Mathlib.Data.List.Chain
import Mathlib.Data.List.DropRight
import SageEditor.Json.Reader

namespace SageEditor.Json

open Read (isBlank skipBlanks)

/-- The characters that are tokens by themselves. -/
def isMark (c : Char) : Bool :=
  c == '[' || c == ']' || c == '{' || c == '}' || c == ',' || c == ':'

/-- The characters that words and numbers consist of: all that do not end them. -/
def isAtomChar (c : Char) : Bool :=
  !isBlank c && !isMark c && c != '"'

/-- A token as it is spelled. -/
inductive Token where
  | mark (c : Char)
  | atom (cs : List Char)
  /-- A string with the characters between its quotes. -/
  | string (body : List Char)
deriving DecidableEq, Repr

/-- The text of a token. -/
def Token.text : Token → List Char
  | mark c => [c]
  | atom cs => cs
  | string body => '"' :: (body ++ ['"'])

/-- Splits a text after the opening quote of a string at the closing one. -/
def literal : List Char → Option (List Char × List Char)
  | [] => none
  | '"' :: rest => some ([], rest)
  | ['\\'] => none
  | '\\' :: c :: rest => (literal rest).map fun (body, rest) => ('\\' :: c :: body, rest)
  | c :: rest => (literal rest).map fun (body, rest) => (c :: body, rest)

theorem append_of_literal {cs body rest : List Char} (h : literal cs = some (body, rest)) :
    cs = body ++ '"' :: rest := by
  fun_induction literal cs generalizing body rest with
  | case1 => simp at h
  | case2 cs =>
    simp only [Option.some.injEq, Prod.mk.injEq] at h
    obtain ⟨rfl, rfl⟩ := h
    rfl
  | case3 => simp at h
  | case4 c cs ih =>
    obtain ⟨⟨body', rest'⟩, hlit, heq⟩ := Option.map_eq_some_iff.mp h
    obtain ⟨rfl, rfl⟩ := Prod.mk.inj heq
    rw [ih hlit]
    rfl
  | case5 c cs _ _ _ ih =>
    obtain ⟨⟨body', rest'⟩, hlit, heq⟩ := Option.map_eq_some_iff.mp h
    obtain ⟨rfl, rfl⟩ := Prod.mk.inj heq
    rw [ih hlit]
    rfl

theorem length_lt_of_literal {cs body rest : List Char} (h : literal cs = some (body, rest)) :
    rest.length < cs.length := by
  rw [append_of_literal h, List.length_append, List.length_cons]
  omega

/-- What stands between the quotes does not depend on what follows. -/
theorem literal_of_literal {cs body rest : List Char} (h : literal cs = some (body, rest))
    (rest' : List Char) : literal (body ++ '"' :: rest') = some (body, rest') := by
  fun_induction literal cs generalizing body rest with
  | case1 => simp at h
  | case2 cs =>
    simp only [Option.some.injEq, Prod.mk.injEq] at h
    obtain ⟨rfl, rfl⟩ := h
    rfl
  | case3 => simp at h
  | case4 c cs ih =>
    obtain ⟨⟨body', rest'⟩, hlit, heq⟩ := Option.map_eq_some_iff.mp h
    obtain ⟨rfl, rfl⟩ := Prod.mk.inj heq
    rw [List.cons_append, List.cons_append, literal, ih hlit]
    rfl
  | case5 c cs hquote _ hescape ih =>
    obtain ⟨⟨body', rest'⟩, hlit, heq⟩ := Option.map_eq_some_iff.mp h
    obtain ⟨rfl, rfl⟩ := Prod.mk.inj heq
    -- A backslash here would be the last character, and the string would not end.
    have hslash : c ≠ '\\' := by
      rintro rfl
      cases cs with
      | nil => simp [literal] at hlit
      | cons d cs => exact hescape d cs rfl rfl
    rw [List.cons_append, literal, ih hlit]
    · rfl
    · exact hquote
    · simp [hslash]
    · simp [hslash]

/-- The tokens of a text; nothing if a string has no end. -/
def tokens : List Char → Option (List Token)
  | [] => some []
  | c :: cs =>
    if isBlank c then tokens cs
    else if isMark c then (tokens cs).map (.mark c :: ·)
    else if c = '"' then
      match h : literal cs with
      | none => none
      | some (body, rest) =>
        have := length_lt_of_literal h
        (tokens rest).map (.string body :: ·)
    else
      have : (cs.dropWhile isAtomChar).length ≤ cs.length := (List.dropWhile_sublist _).length_le
      (tokens (cs.dropWhile isAtomChar)).map (.atom (c :: cs.takeWhile isAtomChar) :: ·)
termination_by cs => cs.length

/-! ### Blanks -/

@[simp] theorem skipBlanks_idem (cs : List Char) : skipBlanks (skipBlanks cs) = skipBlanks cs :=
  List.dropWhile_idempotent _ cs

theorem skipBlanks_cons {c : Char} (h : isBlank c = false) (cs : List Char) :
    skipBlanks (c :: cs) = c :: cs := by
  simp [skipBlanks, h]

theorem tokens_skipBlanks (cs : List Char) : tokens (skipBlanks cs) = tokens cs := by
  induction cs with
  | nil => rfl
  | cons c cs ih =>
    by_cases h : isBlank c = true
    · rw [tokens, if_pos h, ← ih]
      simp [skipBlanks, h]
    · rw [skipBlanks_cons (by simpa using h)]

/-! ### One token -/

theorem not_isBlank_of_isMark {c : Char} (h : isMark c = true) : isBlank c = false := by
  have hmarks : c ∈ ['[', ']', '{', '}', ',', ':'] := by
    simpa [isMark, or_assoc] using h
  have hnone : ['[', ']', '{', '}', ',', ':'].all (!isBlank ·) = true := by decide
  simpa using List.all_eq_true.mp hnone c hmarks

theorem tokens_mark {c : Char} (h : isMark c = true) (cs : List Char) :
    tokens (c :: cs) = (tokens cs).map (.mark c :: ·) := by
  rw [tokens, if_neg (by simp [not_isBlank_of_isMark h]), if_pos h]

theorem tokens_string {cs body rest : List Char} (h : literal cs = some (body, rest)) :
    tokens ('"' :: cs) = (tokens rest).map (.string body :: ·) := by
  rw [tokens, if_neg (by decide), if_neg (by decide), if_pos rfl]
  split
  · next hnone => simp [h] at hnone
  · next hsome =>
    rw [h] at hsome
    obtain ⟨rfl, rfl⟩ := Prod.mk.inj (Option.some.inj hsome)
    rfl

theorem tokens_atom {c : Char} (h : isAtomChar c = true) (cs : List Char) :
    tokens (c :: cs) =
      (tokens (cs.dropWhile isAtomChar)).map (.atom (c :: cs.takeWhile isAtomChar) :: ·) := by
  simp only [isAtomChar, Bool.and_eq_true, Bool.not_eq_true', bne_iff_ne] at h
  obtain ⟨⟨hblank, hmark⟩, hquote⟩ := h
  rw [tokens, if_neg (by simp [hblank]), if_neg (by simp [hmark]), if_neg hquote]

/-! ### Token sequences -/

namespace Token

/-- A token as it can stand in a text. -/
def WellFormed : Token → Prop
  | mark c => isMark c = true
  | atom cs => cs ≠ [] ∧ ∀ c ∈ cs, isAtomChar c = true
  | string body => ∀ rest, literal (body ++ '"' :: rest) = some (body, rest)

/-- A mark of punctuation. -/
def IsMark : Token → Prop
  | mark _ => True
  | _ => False

/-- Two tokens that can stand next to each other without a blank, one of them being a mark. -/
def Apart (t u : Token) : Prop := t.IsMark ∨ u.IsMark

theorem WellFormed.text_ne_nil {t : Token} (h : t.WellFormed) : t.text ≠ [] := by
  cases t with
  | mark c => simp [text]
  | atom cs => exact h.1
  | string body => simp [text]

/-- The first character of a token is no blank. -/
theorem WellFormed.head_text {t : Token} (h : t.WellFormed) :
    ∃ c cs, t.text = c :: cs ∧ isBlank c = false := by
  cases t with
  | mark c => exact ⟨c, [], rfl, not_isBlank_of_isMark h⟩
  | atom cs =>
    obtain ⟨hne, hall⟩ := h
    obtain ⟨c, cs, rfl⟩ := List.exists_cons_of_ne_nil hne
    have hc := hall c (by simp)
    simp only [isAtomChar, Bool.and_eq_true, Bool.not_eq_true'] at hc
    exact ⟨c, cs, rfl, hc.1.1⟩
  | string body => exact ⟨'"', body ++ ['"'], rfl, by decide⟩

end Token

/-- The text begins with the tokens, each of them after any blanks. -/
inductive Spells : List Token → List Char → List Char → Prop
  | nil (rest : List Char) : Spells [] rest rest
  | cons {t : Token} {ts : List Token} {cs mid rest : List Char} :
    skipBlanks cs = t.text ++ mid → Spells ts mid rest → Spells (t :: ts) cs rest

namespace Spells

variable {ts us : List Token} {cs mid rest : List Char}

theorem append (h : Spells ts cs mid) (h' : Spells us mid rest) :
    Spells (ts ++ us) cs rest := by
  induction h with
  | nil => exact h'
  | cons hskip _ ih => exact .cons hskip (ih h')

theorem of_append (h : Spells (ts ++ us) cs rest) :
    ∃ mid, Spells ts cs mid ∧ Spells us mid rest := by
  induction ts generalizing cs with
  | nil => exact ⟨cs, .nil cs, h⟩
  | cons t ts ih =>
    obtain _ | ⟨hskip, h⟩ := h
    obtain ⟨mid, hts, hus⟩ := ih h
    exact ⟨mid, .cons hskip hts, hus⟩

theorem singleton {t : Token} (h : skipBlanks cs = t.text ++ rest) : Spells [t] cs rest :=
  .cons h (.nil rest)

theorem of_mark {c : Char} (h : Spells (.mark c :: ts) cs rest) :
    ∃ mid, Read.skipBlanks cs = c :: mid ∧ Spells ts mid rest := by
  obtain _ | ⟨hskip, h⟩ := h
  exact ⟨_, hskip, h⟩

theorem of_string {body : List Char} (h : Spells (.string body :: ts) cs rest) :
    ∃ mid, Read.skipBlanks cs = '"' :: (body ++ '"' :: mid) ∧ Spells ts mid rest := by
  obtain _ | ⟨hskip, h⟩ := h
  exact ⟨_, by simpa [Token.text] using hskip, h⟩

/-- Blanks before the first token do not count. -/
theorem of_skipBlanks (h : Spells ts (skipBlanks cs) rest) (hne : ts ≠ []) :
    Spells ts cs rest := by
  cases h with
  | nil => exact absurd rfl hne
  | cons hskip h => exact .cons (by rwa [skipBlanks_idem] at hskip) h

theorem skipBlanks (h : Spells ts cs rest) (hne : ts ≠ []) :
    Spells ts (Read.skipBlanks cs) rest := by
  cases h with
  | nil => exact absurd rfl hne
  | cons hskip h => exact .cons (by rwa [skipBlanks_idem]) h

end Spells

/-! ### Tokens and texts -/

/-- A text that ends a word or a number. -/
def Delimited (cs : List Char) : Prop :=
  ∀ c ∈ cs.head?, isAtomChar c = false

theorem delimited_nil : Delimited [] := by simp [Delimited]

theorem delimited_of_skipBlanks_eq_nil {cs : List Char} (h : skipBlanks cs = []) :
    Delimited cs := by
  intro c hc
  obtain ⟨cs', rfl⟩ := List.head?_eq_some_iff.mp hc
  have hblank : isBlank c = true := by
    by_contra hnot
    rw [skipBlanks_cons (by simpa using hnot)] at h
    cases h
  simp [isAtomChar, hblank]

theorem delimited_of_skipBlanks_eq_mark {cs rest : List Char} {c : Char}
    (h : skipBlanks cs = c :: rest) (hc : isMark c = true) : Delimited cs := by
  intro d hd
  obtain ⟨cs', rfl⟩ := List.head?_eq_some_iff.mp hd
  by_cases hblank : isBlank d = true
  · simp [isAtomChar, hblank]
  · rw [skipBlanks_cons (by simpa using hblank)] at h
    obtain ⟨rfl, -⟩ := List.cons.inj h
    simp [isAtomChar, hc]

theorem takeWhile_isAtomChar {cs rest : List Char} (h : ∀ c ∈ cs, isAtomChar c = true)
    (hrest : Delimited rest) : (cs ++ rest).takeWhile isAtomChar = cs := by
  rw [List.takeWhile_append_of_pos h]
  cases rest with
  | nil => simp
  | cons c rest => simp [hrest c rfl]

theorem dropWhile_isAtomChar {cs rest : List Char} (h : ∀ c ∈ cs, isAtomChar c = true)
    (hrest : Delimited rest) : (cs ++ rest).dropWhile isAtomChar = rest := by
  rw [List.dropWhile_append_of_pos h]
  cases rest with
  | nil => rfl
  | cons c rest => simp [hrest c rfl]

/-- The first token of a text, if what follows it cannot belong to it. -/
theorem tokens_append {t : Token} {cs : List Char} (ht : t.WellFormed)
    (hcs : t.IsMark ∨ Delimited cs) : tokens (t.text ++ cs) = (tokens cs).map (t :: ·) := by
  cases t with
  | mark c => exact tokens_mark ht cs
  | string body =>
    have hlit : literal (body ++ ['"'] ++ cs) = some (body, cs) := by
      rw [List.append_assoc, List.singleton_append]
      exact ht cs
    exact tokens_string hlit
  | atom as =>
    have hdel : Delimited cs := hcs.resolve_left id
    obtain ⟨hne, hall⟩ := ht
    obtain ⟨c, as, rfl⟩ := List.exists_cons_of_ne_nil hne
    have has : ∀ c ∈ as, isAtomChar c = true := fun d hd => hall d (by simp [hd])
    rw [Token.text, List.cons_append, tokens_atom (hall c (by simp)),
      takeWhile_isAtomChar has hdel, dropWhile_isAtomChar has hdel]

/-- What follows a token cannot belong to it: a mark does, or nothing but blanks. -/
theorem isMark_or_delimited {t : Token} {ts : List Token} {cs rest : List Char}
    (h : Spells ts cs rest) (hwf : ∀ t ∈ ts, t.WellFormed)
    (happart : (t :: ts).IsChain Token.Apart) (hrest : skipBlanks rest = []) :
    t.IsMark ∨ Delimited cs := by
  cases h with
  | nil => exact .inr (delimited_of_skipBlanks_eq_nil hrest)
  | @cons u us _ _ _ hskip _ =>
    refine (List.isChain_cons_cons.mp happart).1.imp_right fun hu => ?_
    cases u with
    | mark c => exact delimited_of_skipBlanks_eq_mark hskip (hwf (.mark c) (by simp))
    | atom => exact hu.elim
    | string => exact hu.elim

/-- Tokens that stand apart are those of every text that they spell. -/
theorem tokens_of_spells {ts : List Token} {cs rest : List Char} (h : Spells ts cs rest)
    (hwf : ∀ t ∈ ts, t.WellFormed) (happart : ts.IsChain Token.Apart)
    (hrest : skipBlanks rest = []) : tokens cs = some ts := by
  induction h with
  | nil rest => rw [← tokens_skipBlanks, hrest, tokens]
  | @cons t ts cs mid rest hskip h ih =>
    have hmid : tokens mid = some ts :=
      ih (fun u hu => hwf u (by simp [hu])) happart.tail hrest
    have hnext := isMark_or_delimited h (fun u hu => hwf u (by simp [hu])) happart hrest
    rw [← tokens_skipBlanks, hskip, tokens_append (hwf t (by simp)) hnext, hmid]
    rfl

/-- The tokens of a text are well formed, and it spells them with only blanks behind. -/
theorem spells_of_tokens {ts : List Token} {cs : List Char} (h : tokens cs = some ts) :
    (∀ t ∈ ts, t.WellFormed) ∧ ∃ rest, Spells ts cs rest ∧ skipBlanks rest = [] := by
  fun_induction tokens cs generalizing ts with
  | case1 =>
    obtain rfl := Option.some.inj h
    exact ⟨by simp, [], .nil [], rfl⟩
  | case2 c cs hblank ih =>
    -- A blank belongs to the token behind it, or to the rest if there is none.
    obtain ⟨hwf, rest, hspells, hrest⟩ := ih h
    have hskip : skipBlanks (c :: cs) = skipBlanks cs := by simp [skipBlanks, hblank]
    refine ⟨hwf, ?_⟩
    cases hspells with
    | nil => exact ⟨c :: cs, .nil _, by rw [hskip, hrest]⟩
    | cons ht hts => exact ⟨rest, .cons (hskip ▸ ht) hts, hrest⟩
  | case3 c cs hblank hmark ih =>
    obtain ⟨us, hus, rfl⟩ := Option.map_eq_some_iff.mp h
    obtain ⟨hwf, rest, hspells, hrest⟩ := ih hus
    refine ⟨List.forall_mem_cons.mpr ⟨hmark, hwf⟩, rest, .cons ?_ hspells, hrest⟩
    exact skipBlanks_cons (by simpa using hblank) cs
  | case4 => simp at h
  | case5 cs body mid hlit _ _ _ ih =>
    obtain ⟨us, hus, rfl⟩ := Option.map_eq_some_iff.mp h
    obtain ⟨hwf, rest, hspells, hrest⟩ := ih hus
    refine ⟨List.forall_mem_cons.mpr ⟨literal_of_literal hlit, hwf⟩, rest, .cons ?_ hspells, hrest⟩
    rw [append_of_literal hlit, skipBlanks_cons (by decide)]
    simp [Token.text]
  | case6 c cs hblank hmark hquote _ ih =>
    obtain ⟨us, hus, rfl⟩ := Option.map_eq_some_iff.mp h
    obtain ⟨hwf, rest, hspells, hrest⟩ := ih hus
    have hc : isAtomChar c = true := by simp [isAtomChar, hblank, hmark, hquote]
    refine ⟨List.forall_mem_cons.mpr ⟨⟨by simp, ?_⟩, hwf⟩, rest, .cons ?_ hspells, hrest⟩
    · exact List.forall_mem_cons.mpr ⟨hc, fun d hd => List.mem_takeWhile_imp hd⟩
    · rw [skipBlanks_cons (by simpa using hblank), Token.text, List.cons_append,
        List.takeWhile_append_dropWhile]

/-- Every token stands in the text. -/
theorem infix_of_mem_tokens {ts : List Token} {cs : List Char} (h : tokens cs = some ts) :
    ∀ t ∈ ts, t.text <:+: cs := by
  obtain ⟨-, rest, hspells, -⟩ := spells_of_tokens h
  clear h
  induction hspells with
  | nil => simp
  | @cons t ts cs mid rest hskip _ ih =>
    have hsuffix : t.text ++ mid <:+ cs := hskip ▸ List.dropWhile_suffix isBlank
    refine List.forall_mem_cons.mpr ⟨?_, fun u hu => ?_⟩
    · exact (List.prefix_append t.text mid).isInfix.trans hsuffix.isInfix
    · exact (ih u hu).trans ((List.suffix_append t.text mid).trans hsuffix).isInfix

end SageEditor.Json
