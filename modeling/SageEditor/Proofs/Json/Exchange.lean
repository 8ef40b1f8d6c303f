/-
Exchanging strings in a JSON text.

* `stringText_escaped` — the writer puts between the quotes a text of the string;
* `opens_or_closes` — what a quotation mark begins depends only on what stands before it;
* `tokens_exchange` — exchanging a quoted text for another changes one string token at its end;
* `IsValue.exists_of_forall₂` — tokens go on being a value if only strings change;
* `Valid.exchange` — a text goes on being valid.

Design notes: a quotation mark begins a string, or it is an escaped character of one, or it ends
one.  In the last case a word would follow the string without a comma, so that no valid text has
a quoted text there that begins like a word.
-/
import Mathlib.Data.List.Forall2
import SageEditor.Json.Writer
import SageEditor.Proofs.Json.Grammar

namespace SageEditor.Json

open Read

/-! ### Written strings -/

/-- The characters of a string as they are written between its quotes. -/
def escaped (s : String) : List Char :=
  s.toList.foldr Write.escape []

theorem escape_eq (c : Char) (rest : List Char) :
    Write.escape c rest = Write.escape c [] ++ rest := by
  unfold Write.escape
  split
  all_goals try rfl
  split <;> simp

theorem foldr_escape (cs rest : List Char) :
    cs.foldr Write.escape rest = cs.foldr Write.escape [] ++ rest := by
  induction cs with
  | nil => rfl
  | cons c cs ih =>
    rw [List.foldr_cons, ih, List.foldr_cons, escape_eq, escape_eq c (cs.foldr _ _),
      List.append_assoc]

theorem toList_quote (s : String) : (quote s).toList = '"' :: (escaped s ++ ['"']) := by
  rw [quote, String.toList_ofList, Write.string, foldr_escape]
  rfl

theorem stringText_control {c : Char} (h : c < ' ') :
    StringText ('\\' :: 'u' :: '0' :: '0' :: Write.hexPair c.toNat) [c] := by
  have hdigits : ∀ n < 32,
      hexValues? '0' '0' (Nat.digitChar (n / 16)) (Nat.digitChar (n % 16)) = some n := by
    decide
  have hlt : c.toNat < 32 := h
  have htext := StringText.unicode (hdigits _ hlt) (by simp; omega) (by simp; omega) .nil
  rwa [Char.ofNat_toNat] at htext

theorem stringText_escape (c : Char) : StringText (Write.escape c []) [c] := by
  unfold Write.escape
  split
  all_goals try exact .escape (by rfl) .nil
  next hquote hslash _ _ _ _ _ =>
    split
    · next hcontrol =>
      rw [List.append_nil]
      exact stringText_control hcontrol
    · next hcontrol => exact .plain hquote hslash hcontrol .nil

theorem stringText_escaped (s : String) : StringText (escaped s) s.toList := by
  rw [escaped]
  induction s.toList with
  | nil => exact .nil
  | cons c cs ih =>
    rw [List.foldr_cons, escape_eq]
    exact (stringText_escape c).append ih

/-! ### The place of a quotation mark -/

/-- A string that is not ended goes on after a quotation mark, or is ended by it. -/
theorem literal_open {cs : List Char} (h : literal cs = none) :
    (∀ rest, literal (cs ++ '"' :: rest) = some (cs, rest)) ∨
    (∃ before, cs = before ++ ['\\'] ∧ ∀ text body rest, literal text = some (body, rest) →
      literal (cs ++ '"' :: text) = some (cs ++ '"' :: body, rest)) := by
  fun_induction literal cs with
  | case1 => exact .inl fun rest => rfl
  | case2 cs => cases h
  | case3 =>
    exact .inr ⟨[], rfl, fun text body rest htext => literal_escape '"' htext⟩
  | case4 c cs ih =>
    rcases ih (Option.map_eq_none_iff.mp h) with hends | ⟨before, rfl, hgoes⟩
    · exact .inl fun rest => literal_escape c (hends rest)
    · refine .inr ⟨'\\' :: c :: before, rfl, fun text body rest htext => ?_⟩
      exact literal_escape c (hgoes text body rest htext)
  | case5 c cs hquote hend hescape ih =>
    have hslash : c ≠ '\\' := by
      rintro rfl
      cases cs with
      | nil => exact hend rfl rfl
      | cons d cs => exact hescape d cs rfl rfl
    rcases ih (Option.map_eq_none_iff.mp h) with hends | ⟨before, rfl, hgoes⟩
    · exact .inl fun rest => literal_cons hquote hslash (hends rest)
    · refine .inr ⟨c :: before, rfl, fun text body rest htext => ?_⟩
      exact literal_cons hquote hslash (hgoes text body rest htext)

/-- The part of a string up to a quotation mark in it: nothing, or it ends in an escaped one. -/
def Opening (before : List Char) : Prop :=
  before = [] ∨ ∃ p, before = p ++ ['\\', '"']

theorem takeWhile_append_quote (cs rest : List Char) :
    (cs ++ '"' :: rest).takeWhile isAtomChar = cs.takeWhile isAtomChar := by
  induction cs with
  | nil => rfl
  | cons c cs ih => simp only [List.cons_append, List.takeWhile_cons, ih]

theorem dropWhile_append_quote (cs rest : List Char) :
    (cs ++ '"' :: rest).dropWhile isAtomChar = cs.dropWhile isAtomChar ++ '"' :: rest := by
  induction cs with
  | nil => rfl
  | cons c cs ih =>
    simp only [List.cons_append, List.dropWhile_cons, ih]
    split <;> rfl

/-- A quotation mark behind the text begins a string or is an escaped character of one, so that
what is up to the next one becomes the end of a string token. -/
def Opens (cs : List Char) : Prop :=
  ∃ ts before, Opening before ∧ ∀ body rest, (Token.string body).WellFormed →
    tokens (cs ++ '"' :: (body ++ '"' :: rest)) =
      (tokens rest).map fun us => ts ++ .string (before ++ body) :: us

/-- A quotation mark behind the text ends a string, so that a word cannot follow it. -/
def Closes (cs : List Char) : Prop :=
  ∀ c rest ts, isAtomChar c = true → tokens (cs ++ '"' :: c :: rest) = some ts →
    ¬ ts.IsChain Token.Apart

/-- One more token before the quotation mark changes nothing. -/
theorem opens_or_closes_cons {t : Token} {cs cs' : List Char}
    (h : ∀ rest, tokens (cs ++ '"' :: rest) = (tokens (cs' ++ '"' :: rest)).map (t :: ·))
    (hcs' : Opens cs' ∨ Closes cs') : Opens cs ∨ Closes cs := by
  refine hcs'.imp ?_ fun hcloses c rest ts hc hts => ?_
  · rintro ⟨ts, before, hbefore, hopens⟩
    refine ⟨t :: ts, before, hbefore, fun body rest hbody => ?_⟩
    rw [h, hopens body rest hbody, Option.map_map]
    rfl
  · rw [h] at hts
    obtain ⟨us, hus, rfl⟩ := Option.map_eq_some_iff.mp hts
    exact fun happart => hcloses c rest us hc hus happart.tail

theorem opens_or_closes (cs : List Char) : Opens cs ∨ Closes cs := by
  fun_induction tokens cs with
  | case1 =>
    refine .inl ⟨[], [], .inl rfl, fun body rest hbody => ?_⟩
    exact tokens_string (hbody rest)
  | case2 c cs hblank ih =>
    have h : ∀ rest, tokens (c :: cs ++ '"' :: rest) = tokens (cs ++ '"' :: rest) := by
      intro rest
      rw [List.cons_append, tokens, if_pos hblank]
    simpa only [Opens, Closes, h] using ih
  | case3 c cs _ hmark ih => exact opens_or_closes_cons (fun rest => tokens_mark hmark _) ih
  | case4 cs hlit _ _ =>
    rcases literal_open hlit with hends | ⟨before, rfl, hgoes⟩
    · refine .inr fun c rest ts hc hts happart => ?_
      -- The word would be next to the string.
      rw [List.cons_append, tokens_string (hends _), tokens_atom hc, Option.map_map] at hts
      obtain ⟨us, -, rfl⟩ := Option.map_eq_some_iff.mp hts
      exact (List.isChain_cons_cons.mp happart).1.elim id id
    · refine .inl ⟨[], before ++ ['\\', '"'], .inr ⟨before, rfl⟩, fun body rest hbody => ?_⟩
      rw [List.cons_append, tokens_string (hgoes _ _ _ (hbody rest))]
      simp
  | case5 cs body mid hlit _ _ _ ih =>
    have hcons : ∀ rest, tokens ('"' :: cs ++ '"' :: rest) =
        (tokens (mid ++ '"' :: rest)).map (.string body :: ·) := by
      intro rest
      have hlit' : literal (cs ++ '"' :: rest) = some (body, mid ++ '"' :: rest) := by
        rw [append_of_literal hlit, List.append_assoc]
        exact literal_of_literal hlit _
      exact tokens_string hlit'
    exact opens_or_closes_cons hcons ih
  | case6 c cs hblank hmark hquote _ ih =>
    have hc : isAtomChar c = true := by simp [isAtomChar, hblank, hmark, hquote]
    have hcons : ∀ rest, tokens (c :: cs ++ '"' :: rest) =
        (tokens (cs.dropWhile isAtomChar ++ '"' :: rest)).map
          (.atom (c :: cs.takeWhile isAtomChar) :: ·) := by
      intro rest
      rw [List.cons_append, tokens_atom hc, takeWhile_append_quote, dropWhile_append_quote]
    exact opens_or_closes_cons hcons ih

/-! ### Exchanging one string -/

/-- In a text whose tokens stand apart, a quoted text that begins like a word is the end of a
string token, and exchanging it for another one changes that token only. -/
theorem tokens_exchange {x body body' y : List Char} {ts : List Token}
    (hbody : (Token.string body).WellFormed) (hbody' : (Token.string body').WellFormed)
    (hhead : ∃ c cs, body = c :: cs ∧ isAtomChar c = true)
    (hts : tokens (x ++ '"' :: (body ++ '"' :: y)) = some ts) (happart : ts.IsChain Token.Apart) :
    ∃ us before vs, Opening before ∧ tokens y = some vs ∧
      ts = us ++ .string (before ++ body) :: vs ∧
      tokens (x ++ '"' :: (body' ++ '"' :: y)) =
        some (us ++ .string (before ++ body') :: vs) := by
  rcases opens_or_closes x with ⟨us, before, hbefore, hopens⟩ | hcloses
  · rw [hopens body y hbody] at hts
    obtain ⟨vs, hvs, rfl⟩ := Option.map_eq_some_iff.mp hts
    refine ⟨us, before, vs, hbefore, hvs, rfl, ?_⟩
    rw [hopens body' y hbody', hvs]
    rfl
  · obtain ⟨c, cs, rfl, hc⟩ := hhead
    exact absurd happart (hcloses c _ ts hc hts)

/-- What has no quotation mark in it stands before the first one. -/
theorem exists_append_of_not_mem {piece text p rest : List Char} (hpiece : '"' ∉ piece)
    (h : p ++ '"' :: rest = piece ++ text) :
    ∃ p', p = piece ++ p' ∧ text = p' ++ '"' :: rest := by
  rcases List.append_eq_append_iff.mp h with ⟨qs, rfl, hqs⟩ | ⟨qs, rfl, htext⟩
  · cases qs with
    | nil => exact ⟨[], by simp, hqs.symm⟩
    | cons q qs =>
      obtain rfl := (List.cons.inj hqs).1
      simp at hpiece
  · exact ⟨qs, rfl, htext⟩

theorem quote_not_mem_unicode {a b c d : Char} {n : ℕ} (h : hexValues? a b c d = some n) :
    '"' ∉ ['\\', 'u'] ++ [a, b, c, d] := by
  intro hmem
  rcases List.mem_append.mp hmem with hmem | hmem
  · exact absurd hmem (by decide)
  · exact (ne_of_hexValues? h _ hmem).1 rfl

/-- A text of a string can be cut behind a quotation mark in it. -/
theorem StringText.of_append {p body ds : List Char} (h : StringText (p ++ '"' :: body) ds) :
    ∃ ds₁ ds₂, StringText (p ++ ['"']) ds₁ ∧ StringText body ds₂ ∧ ds = ds₁ ++ ds₂ := by
  generalize hcs : p ++ '"' :: body = cs at h
  induction h generalizing p with
  | nil => simp at hcs
  | @plain c text ds hquote hslash hcontrol _ ih =>
    have hpiece : '"' ∉ [c] := by simpa using hquote.symm
    obtain ⟨p', rfl, htext⟩ := exists_append_of_not_mem hpiece hcs
    obtain ⟨ds₁, ds₂, h₁, h₂, rfl⟩ := ih htext.symm
    exact ⟨c :: ds₁, ds₂, .plain hquote hslash hcontrol h₁, h₂, rfl⟩
  | @escape c d text ds hd htext ih =>
    -- This is the escape of the quotation mark, or it lies before it as a whole.
    match p with
    | [] => simp at hcs
    | [e] =>
      obtain ⟨rfl, rfl, rfl⟩ : e = '\\' ∧ '"' = c ∧ body = text := by simpa using hcs
      exact ⟨[d], ds, .escape hd .nil, htext, rfl⟩
    | e :: f :: p =>
      obtain ⟨rfl, rfl, rfl⟩ : e = '\\' ∧ f = c ∧ p ++ '"' :: body = text := by simpa using hcs
      obtain ⟨ds₁, ds₂, h₁, h₂, rfl⟩ := ih rfl
      exact ⟨d :: ds₁, ds₂, .escape hd h₁, h₂, rfl⟩
  | unicode hcode hlow hhigh _ ih =>
    obtain ⟨p', rfl, htext⟩ := exists_append_of_not_mem (quote_not_mem_unicode hcode) hcs
    obtain ⟨ds₁, ds₂, h₁, h₂, rfl⟩ := ih htext.symm
    exact ⟨_, ds₂, .unicode hcode hlow hhigh h₁, h₂, rfl⟩
  | pair hhigh hrange hlow hrange' _ ih =>
    obtain ⟨p₁, rfl, hmid⟩ := exists_append_of_not_mem (quote_not_mem_unicode hhigh) hcs
    obtain ⟨p₂, rfl, htext⟩ := exists_append_of_not_mem (quote_not_mem_unicode hlow) hmid.symm
    obtain ⟨ds₁, ds₂, h₁, h₂, rfl⟩ := ih htext.symm
    exact ⟨_, ds₂, .pair hhigh hrange hlow hrange' h₁, h₂, rfl⟩

/-! ### Values with other strings -/

/-- A token in place of another: it is the same, or both are strings and the new one has no
wrong escape unless the old one has. -/
inductive Token.Replaces : Token → Token → Prop
  | same (t : Token) : Replaces t t
  | string {body body' : List Char}
    (h : ∀ cs, StringText body cs → ∃ cs', StringText body' cs') :
    Replaces (string body) (string body')

theorem Token.Replaces.of_mark {c : Char} {t : Token} (h : Replaces (mark c) t) : t = mark c := by
  cases h
  rfl

theorem Token.Denotes.exists_of_replaces {t u : Token} {v : Json} (h : t.Denotes v)
    (hu : t.Replaces u) : ∃ v', u.Denotes v' := by
  cases hu with
  | same => exact ⟨v, h⟩
  | string hbody =>
    cases h with
    | string hcs =>
      obtain ⟨cs', hcs'⟩ := hbody _ hcs
      exact ⟨_, .string hcs'⟩

open List (Forall₂)

theorem forall₂_append_left {α β : Type} {R : α → β → Prop} {as as' : List α} {bs : List β}
    (h : Forall₂ R (as ++ as') bs) :
    ∃ cs cs', bs = cs ++ cs' ∧ Forall₂ R as cs ∧ Forall₂ R as' cs' := by
  induction as generalizing bs with
  | nil => exact ⟨[], bs, rfl, .nil, h⟩
  | cons a as ih =>
    obtain _ | ⟨hab, h⟩ := h
    obtain ⟨cs, cs', rfl, hcs, hcs'⟩ := ih h
    exact ⟨_ :: cs, cs', rfl, .cons hab hcs, hcs'⟩

theorem Items.exists_of_forall₂ {α : Type} {item : List Token → α → Prop}
    (hitem : ∀ ts us a, item ts a → Forall₂ Token.Replaces ts us → ∃ a', item us a')
    {first : Bool} {ts us : List Token} {as : List α} (h : Items item first ts as)
    (hus : Forall₂ Token.Replaces ts us) : ∃ as', Items item first us as' := by
  induction h generalizing us with
  | nil =>
    cases hus
    exact ⟨[], .nil⟩
  | @cons first ts ts' a as ha _ ih =>
    obtain ⟨commas, us', rfl, hcomma, hus'⟩ := forall₂_append_left hus
    obtain ⟨us₁, us₂, rfl, hus₁, hus₂⟩ := forall₂_append_left hus'
    obtain ⟨a', ha'⟩ := hitem _ _ _ ha hus₁
    obtain ⟨as', has'⟩ := ih hus₂
    have hcommas : commas = comma first := by
      cases first with
      | true => cases hcomma; rfl
      | false =>
        obtain _ | ⟨hmark, hnil⟩ := hcomma
        cases hnil
        rw [hmark.of_mark]
        rfl
    rw [hcommas]
    exact ⟨a' :: as', .cons ha' has'⟩

theorem Bracketed.exists_of_forall₂ {opening closing : Char} {ts ts' us : List Token}
    (h : Bracketed opening closing ts us) (hts : Forall₂ Token.Replaces ts ts') :
    ∃ us', Bracketed opening closing ts' us' ∧ Forall₂ Token.Replaces us us' := by
  subst h
  obtain _ | ⟨hopening, hrest⟩ := hts
  obtain ⟨us', marks, rfl, hus, hclosing⟩ := forall₂_append_left hrest
  obtain _ | ⟨hclosing, hnil⟩ := hclosing
  cases hnil
  rw [hopening.of_mark, hclosing.of_mark]
  exact ⟨us', rfl, hus⟩

theorem IsMember.exists_of_forall₂ {value : List Token → Json → Prop}
    (hvalue : ∀ ts us v, value ts v → Forall₂ Token.Replaces ts us → ∃ v', value us v')
    {ts us : List Token} {m : String × Json} (h : IsMember value ts m)
    (hus : Forall₂ Token.Replaces ts us) : ∃ m', IsMember value us m' := by
  obtain ⟨body, cs, vs, rfl, hbody, -, hvs⟩ := h
  obtain _ | ⟨hname, hrest⟩ := hus
  obtain _ | ⟨hcolon, hrest⟩ := hrest
  obtain ⟨v', hv'⟩ := hvalue _ _ _ hvs hrest
  rw [hcolon.of_mark]
  cases hname with
  | same => exact ⟨(String.ofList cs, v'), body, cs, _, rfl, hbody, rfl, hv'⟩
  | @string _ body' h =>
    obtain ⟨cs', hcs'⟩ := h _ hbody
    exact ⟨(String.ofList cs', v'), body', cs', _, rfl, hcs', rfl, hv'⟩

/-- Tokens go on being a value if only strings are replaced. -/
theorem IsValue.exists_of_forall₂ {depth : ℕ} {ts us : List Token} {v : Json}
    (h : IsValue depth ts v) (hus : Forall₂ Token.Replaces ts us) :
    ∃ v', IsValue depth us v' := by
  induction depth generalizing ts us v with
  | zero =>
    obtain ⟨t, rfl, ht⟩ := h
    obtain _ | ⟨hu, hnil⟩ := hus
    cases hnil
    obtain ⟨v', hv'⟩ := ht.exists_of_replaces hu
    exact ⟨v', isValue_of_denotes hv' 0⟩
  | succ depth ih =>
    rcases h with ⟨t, rfl, ht⟩ | ⟨ts', xs, hts, hxs, rfl⟩ | ⟨ts', ms, hts, hms, rfl⟩
    · obtain _ | ⟨hu, hnil⟩ := hus
      cases hnil
      obtain ⟨v', hv'⟩ := ht.exists_of_replaces hu
      exact ⟨v', isValue_of_denotes hv' _⟩
    · obtain ⟨us', hus', hinner⟩ := hts.exists_of_forall₂ hus
      obtain ⟨xs', hxs'⟩ := hxs.exists_of_forall₂ (fun _ _ _ => ih) hinner
      exact ⟨_, .inr (.inl ⟨us', xs', hus', hxs', rfl⟩)⟩
    · obtain ⟨us', hus', hinner⟩ := hts.exists_of_forall₂ hus
      obtain ⟨ms', hms'⟩ :=
        hms.exists_of_forall₂ (fun _ _ _ h => h.exists_of_forall₂ fun _ _ _ => ih) hinner
      exact ⟨_, .inr (.inr ⟨us', ms', hus', hms', rfl⟩)⟩

/-! ### Valid texts -/

/-- A text that is a JSON value with the given tokens. -/
def Valid (cs : List Char) (ts : List Token) : Prop :=
  tokens cs = some ts ∧ ∃ v, IsValue maxDepth ts v

theorem exists_parse_iff {text : String} :
    (∃ v, parse text = .ok v) ↔ ∃ ts, Valid text.toList ts := by
  simp only [parse_eq_ok_iff, Valid]
  constructor
  · rintro ⟨v, ts, hts, hv⟩
    exact ⟨ts, hts, v, hv⟩
  · rintro ⟨ts, hts, v, hv⟩
    exact ⟨v, ts, hts, hv⟩

theorem Valid.apart {cs : List Char} {ts : List Token} (h : Valid cs ts) :
    ts.IsChain Token.Apart := by
  obtain ⟨-, v, hv⟩ := h
  exact (reads_value maxDepth).apart hv

/-- **Exchanging a string.**  In a valid text a quoted text that begins like a word is the end of a
string token, and with another one in its place the text is still valid. -/
theorem Valid.exchange {x body body' y ds ds' : List Char} {ts : List Token}
    (hbody : StringText body ds) (hbody' : StringText body' ds')
    (hhead : ∃ c cs, body = c :: cs ∧ isAtomChar c = true)
    (h : Valid (x ++ '"' :: (body ++ '"' :: y)) ts) :
    ∃ us before vs, Opening before ∧ ts = us ++ .string (before ++ body) :: vs ∧
      tokens y = some vs ∧
      Valid (x ++ '"' :: (body' ++ '"' :: y)) (us ++ .string (before ++ body') :: vs) := by
  obtain ⟨us, before, vs, hbefore, hvs, rfl, hts'⟩ :=
    tokens_exchange (wellFormed_of_stringText hbody) (wellFormed_of_stringText hbody') hhead h.1
      h.apart
  refine ⟨us, before, vs, hbefore, rfl, hvs, hts', ?_⟩
  obtain ⟨-, v, hv⟩ := h
  refine hv.exists_of_forall₂ ?_
  have htoken : (Token.string (before ++ body)).Replaces (.string (before ++ body')) := by
    refine .string fun cs hcs => ?_
    rcases hbefore with rfl | ⟨p, rfl⟩
    · exact ⟨ds', hbody'⟩
    · -- The part before the quotation mark is a text of a string by itself.
      have hsplit : StringText ((p ++ ['\\']) ++ '"' :: body) cs := by simpa using hcs
      obtain ⟨ds₁, _, h₁, -, -⟩ := hsplit.of_append
      exact ⟨ds₁ ++ ds', by simpa using h₁.append hbody'⟩
  have hrefl : ∀ us : List Token, Forall₂ Token.Replaces us us := fun us =>
    List.forall₂_same.mpr fun t _ => .same t
  exact List.rel_append (hrefl us) (.cons htoken (hrefl vs))

end SageEditor.Json
