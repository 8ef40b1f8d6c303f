/-
Strings, words and numbers as they are spelled.

* `StringText` — the text between the quotes of a string, and the characters it stands for;
* `stringRest_eq_ok_iff` — the reader of strings takes exactly such a text and a closing quote;
* `Took` — what a reader took of a text, it takes from every text in which it is delimited;
* `word_eq_ok_iff`, `took_of_number` — how words and numbers are taken.

Design notes: the readers decide where a number ends by looking one character ahead, so what they
take can only be compared between texts that go on with a delimiter.
-/
import Mathlib.Data.List.TakeDrop
import SageEditor.Proofs.Json.Token

namespace SageEditor.Json

open Read

/-! ### Strings -/

/-- The text between the quotes of a string, with the characters that it stands for. -/
inductive StringText : List Char → List Char → Prop
  | nil : StringText [] []
  | plain {c : Char} {body cs : List Char} (hquote : c ≠ '"') (hslash : c ≠ '\\')
    (hcontrol : ¬ c < ' ') : StringText body cs → StringText (c :: body) (c :: cs)
  | escape {c d : Char} {body cs : List Char} (hd : plainEscape? c = some d) :
    StringText body cs → StringText ('\\' :: c :: body) (d :: cs)
  | unicode {a b c d : Char} {code : ℕ} {body cs : List Char}
    (hcode : hexValues? a b c d = some code) (hlow : ¬ (0xdc00 ≤ code && code < 0xe000))
    (hhigh : ¬ (0xd800 ≤ code && code < 0xdc00)) :
    StringText body cs →
    StringText ('\\' :: 'u' :: a :: b :: c :: d :: body) (Char.ofNat code :: cs)
  | pair {a b c d e f g h : Char} {high low : ℕ} {body cs : List Char}
    (hhigh : hexValues? a b c d = some high) (hrange : 0xd800 ≤ high && high < 0xdc00)
    (hlow : hexValues? e f g h = some low) (hrange' : 0xdc00 ≤ low && low < 0xe000) :
    StringText body cs →
    StringText ('\\' :: 'u' :: a :: b :: c :: d :: '\\' :: 'u' :: e :: f :: g :: h :: body)
      (Char.ofNat (0x10000 + (high - 0xd800) * 0x400 + (low - 0xdc00)) :: cs)

namespace StringText

variable {body body' cs cs' : List Char}

theorem append (h : StringText body cs) (h' : StringText body' cs') :
    StringText (body ++ body') (cs ++ cs') := by
  induction h with
  | nil => exact h'
  | plain hquote hslash hcontrol _ ih => exact .plain hquote hslash hcontrol ih
  | escape hd _ ih => exact .escape hd ih
  | unicode hcode hlow hhigh _ ih => exact .unicode hcode hlow hhigh ih
  | pair hhigh hrange hlow hrange' _ ih => exact .pair hhigh hrange hlow hrange' ih

end StringText

theorem stringText_of_stringRest {acc cs rest : List Char} {s : String}
    (h : stringRest acc cs = .ok (s, rest)) :
    ∃ body ds, StringText body ds ∧ cs = body ++ '"' :: rest ∧
      s = String.ofList (acc.reverse ++ ds) := by
  fun_induction stringRest acc cs with
  | case2 acc cs =>
    obtain ⟨rfl, rfl⟩ := Prod.mk.inj (Except.ok.inj h)
    exact ⟨[], [], .nil, rfl, by simp⟩
  | case6 acc a b c d high hhigh hnot hrange e f g h' cs low hlow hrange' code ih =>
    obtain ⟨body, ds, hbody, rfl, rfl⟩ := ih h
    exact ⟨_, _, .pair hhigh hrange hlow hrange' hbody, rfl, by simp [code]⟩
  | case10 acc a b c d cs code hcode hlow hhigh ih =>
    obtain ⟨body, ds, hbody, rfl, rfl⟩ := ih h
    exact ⟨_, _, .unicode hcode hlow hhigh hbody, rfl, by simp⟩
  | case13 acc c cs _ _ d hd ih =>
    obtain ⟨body, ds, hbody, rfl, rfl⟩ := ih h
    exact ⟨_, _, .escape hd hbody, rfl, by simp⟩
  | case16 acc c cs hquote _ hend _ hescape hcontrol ih =>
    have hslash : c ≠ '\\' := by
      rintro rfl
      cases cs with
      | nil => exact hend rfl rfl
      | cons d cs => exact hescape d cs rfl rfl
    obtain ⟨body, ds, hbody, rfl, rfl⟩ := ih h
    exact ⟨_, _, .plain hquote hslash hcontrol hbody, rfl, by simp⟩
  | _ => cases h

theorem stringRest_of_stringText {body ds : List Char} (h : StringText body ds)
    (acc rest : List Char) :
    stringRest acc (body ++ '"' :: rest) = .ok (String.ofList (acc.reverse ++ ds), rest) := by
  induction h generalizing acc with
  | nil => simp [stringRest]
  | @plain c body cs hquote hslash hcontrol _ ih =>
    rw [List.cons_append, stringRest, if_neg hcontrol, ih]
    · simp
    · exact hquote
    all_goals simp [hslash]
  | @escape c d body cs hd _ ih =>
    have hu : c ≠ 'u' := by
      rintro rfl
      simp [plainEscape?] at hd
    rw [List.cons_append, List.cons_append, stringRest]
    · simp [hd, ih]
    all_goals simp [hu]
  | unicode hcode hlow hhigh _ ih =>
    simp only [List.cons_append, stringRest, hcode]
    rw [if_neg hlow, if_neg hhigh, ih]
    simp
  | @pair a b c d e f g h high low body cs hhigh hrange hlow hrange' _ ih =>
    -- A high surrogate is not refused as a lone low one.
    have hnot : ¬ (0xdc00 ≤ high && high < 0xe000) := by
      simp only [Bool.and_eq_true, decide_eq_true_eq] at hrange ⊢
      omega
    simp only [List.cons_append, stringRest, hhigh, hlow]
    rw [if_neg hnot, if_pos hrange, if_pos hrange', ih]
    simp

/-- The reader of strings takes a text of a string up to the closing quote. -/
theorem stringRest_eq_ok_iff {acc cs rest : List Char} {s : String} :
    stringRest acc cs = .ok (s, rest) ↔
      ∃ body ds, StringText body ds ∧ cs = body ++ '"' :: rest ∧
        s = String.ofList (acc.reverse ++ ds) := by
  constructor
  · exact stringText_of_stringRest
  · rintro ⟨body, ds, hbody, rfl, rfl⟩
    exact stringRest_of_stringText hbody acc rest

/-- A text stands for one sequence of characters. -/
theorem StringText.unique {body cs cs' : List Char} (h : StringText body cs)
    (h' : StringText body cs') : cs = cs' := by
  have hread := (stringRest_of_stringText h [] []).symm.trans (stringRest_of_stringText h' [] [])
  obtain ⟨hstring, -⟩ := Prod.mk.inj (Except.ok.inj hread)
  simpa using congrArg String.toList hstring

theorem literal_cons {c : Char} {cs body rest : List Char} (hquote : c ≠ '"') (hslash : c ≠ '\\')
    (h : literal cs = some (body, rest)) : literal (c :: cs) = some (c :: body, rest) := by
  rw [literal, h]
  · rfl
  · exact hquote
  all_goals simp [hslash]

theorem literal_escape (c : Char) {cs body rest : List Char}
    (h : literal cs = some (body, rest)) :
    literal ('\\' :: c :: cs) = some ('\\' :: c :: body, rest) := by
  rw [literal, h]
  rfl

theorem hexValue?_ne {c : Char} {n : ℕ} (h : hexValue? c = some n) : c ≠ '"' ∧ c ≠ '\\' := by
  constructor <;> rintro rfl <;> simp [hexValue?] at h

theorem ne_of_hexValues? {a b c d : Char} {n : ℕ} (h : hexValues? a b c d = some n) :
    ∀ x ∈ [a, b, c, d], x ≠ '"' ∧ x ≠ '\\' := by
  simp only [hexValues?, Option.bind_eq_bind, Option.bind_eq_some_iff] at h
  obtain ⟨_, ha, _, hb, _, hc, _, hd, -⟩ := h
  simp [hexValue?_ne ha, hexValue?_ne hb, hexValue?_ne hc, hexValue?_ne hd]

/-- Four hexadecimal digits in a string do not end it. -/
theorem literal_hex {a b c d : Char} {n : ℕ} (hn : hexValues? a b c d = some n)
    {cs body rest : List Char} (h : literal cs = some (body, rest)) :
    literal (a :: b :: c :: d :: cs) = some (a :: b :: c :: d :: body, rest) := by
  have hne := ne_of_hexValues? hn
  have hd := literal_cons (hne d (by simp)).1 (hne d (by simp)).2 h
  have hc := literal_cons (hne c (by simp)).1 (hne c (by simp)).2 hd
  have hb := literal_cons (hne b (by simp)).1 (hne b (by simp)).2 hc
  exact literal_cons (hne a (by simp)).1 (hne a (by simp)).2 hb

/-- The text of a string is a token between its quotes. -/
theorem wellFormed_of_stringText {body cs : List Char} (h : StringText body cs) :
    (Token.string body).WellFormed := by
  intro rest
  induction h with
  | nil => rfl
  | plain hquote hslash _ _ ih => exact literal_cons hquote hslash ih
  | escape _ _ ih => exact literal_escape _ ih
  | unicode hcode _ _ _ ih => exact literal_escape 'u' (literal_hex hcode ih)
  | pair hhigh _ hlow _ _ ih =>
    exact literal_escape 'u' (literal_hex hhigh (literal_escape 'u' (literal_hex hlow ih)))

/-! ### Words -/

theorem word_eq_ok_iff {wanted cs rest : List Char} :
    word wanted cs = .ok ((), rest) ↔ cs = wanted ++ rest := by
  induction wanted generalizing cs with
  | nil => simp [word]
  | cons w wanted ih =>
    cases cs with
    | nil => simp [word]
    | cons c cs =>
      by_cases h : c = w
      · simp [word, h, ih]
      · simp [word, h]

/-! ### Numbers -/

/-- What was read is a stretch of characters of words and numbers, and it is read from every text
that goes on with a delimiter after it. -/
def Took {ε α : Type} (read : List Char → Except ε (α × List Char)) (cs : List Char) (a : α)
    (rest : List Char) : Prop :=
  ∃ taken, cs = taken ++ rest ∧ (∀ c ∈ taken, isAtomChar c = true) ∧
    ∀ rest', Delimited rest' → read (taken ++ rest') = .ok (a, rest')

/-- A text that does not begin with a digit. -/
def NoDigit (cs : List Char) : Prop := ∀ c ∈ cs.head?, c.isDigit = false

theorem isAtomChar_of_isDigit {c : Char} (h : c.isDigit = true) : isAtomChar c = true := by
  have hne : ∀ d, d.isDigit = false → c ≠ d := by
    rintro d hd rfl
    simp [h] at hd
  simp [isAtomChar, isBlank, isMark, hne]

theorem Delimited.noDigit {cs : List Char} (h : Delimited cs) : NoDigit cs := by
  intro c hc
  by_contra hdigit
  have := isAtomChar_of_isDigit (by simpa using hdigit)
  simp [h c hc] at this

namespace Numeral

theorem spanDigits_append {ds rest : List Char} (hds : ∀ c ∈ ds, c.isDigit = true)
    (hrest : NoDigit rest) : spanDigits (ds ++ rest) = (ds, rest) := by
  rw [spanDigits, List.span_eq_takeWhile_dropWhile, List.takeWhile_append_of_pos hds,
    List.dropWhile_append_of_pos hds]
  cases rest with
  | nil => simp
  | cons c rest => simp [hrest c rfl]

theorem of_spanDigits {cs ds rest : List Char} (h : spanDigits cs = (ds, rest)) :
    cs = ds ++ rest ∧ (∀ c ∈ ds, c.isDigit = true) ∧ NoDigit rest := by
  rw [spanDigits, List.span_eq_takeWhile_dropWhile] at h
  obtain ⟨rfl, rfl⟩ := Prod.mk.inj h
  refine ⟨List.takeWhile_append_dropWhile.symm, fun c hc => List.mem_takeWhile_imp hc, ?_⟩
  intro c hc
  have := List.head?_dropWhile_not Char.isDigit cs
  rw [Option.mem_def.mp hc] at this
  simpa using this

/-- A stretch of digits that is followed by no further digit. -/
theorem took_of_scanExponentDigits {minus signed : Bool} {cs rest : List Char} {e : Exponent}
    (h : scanExponentDigits minus signed cs = .ok (e, rest)) :
    ∃ d ds, cs = d :: ds ++ rest ∧ (∀ c ∈ d :: ds, c.isDigit = true) ∧
      ∀ rest', Delimited rest' →
        scanExponentDigits minus signed (d :: ds ++ rest') = .ok (e, rest') := by
  rw [scanExponentDigits] at h
  split at h
  · cases h
  · next digits rest' hne hspan =>
    obtain ⟨rfl, rfl⟩ := Prod.mk.inj (Except.ok.inj h)
    obtain ⟨rfl, hall, -⟩ := of_spanDigits hspan
    obtain ⟨d, ds, rfl⟩ := List.exists_cons_of_ne_nil hne
    refine ⟨d, ds, rfl, hall, fun rest'' hrest'' => ?_⟩
    rw [scanExponentDigits, spanDigits_append hall hrest''.noDigit]

theorem took_of_scanExponent {cs rest : List Char} {e : Exponent}
    (h : scanExponent cs = .ok (e, rest)) : Took scanExponent cs e rest := by
  unfold scanExponent at h
  split at h
  · obtain ⟨d, ds, rfl, hall, hread⟩ := took_of_scanExponentDigits h
    refine ⟨'-' :: d :: ds, rfl, List.forall_mem_cons.mpr ⟨by decide, ?_⟩, hread⟩
    exact fun c hc => isAtomChar_of_isDigit (hall c hc)
  · obtain ⟨d, ds, rfl, hall, hread⟩ := took_of_scanExponentDigits h
    refine ⟨'+' :: d :: ds, rfl, List.forall_mem_cons.mpr ⟨by decide, ?_⟩, hread⟩
    exact fun c hc => isAtomChar_of_isDigit (hall c hc)
  · next hminus hplus =>
    obtain ⟨d, ds, rfl, hall, hread⟩ := took_of_scanExponentDigits h
    refine ⟨d :: ds, rfl, fun c hc => isAtomChar_of_isDigit (hall c hc), fun rest' hrest' => ?_⟩
    rw [List.cons_append, scanExponent]
    · exact hread rest' hrest'
    · rintro cs heq
      exact hminus (ds ++ rest) (by rw [(List.cons.inj heq).1]; rfl)
    · rintro cs heq
      exact hplus (ds ++ rest) (by rw [(List.cons.inj heq).1]; rfl)

theorem noDigit_append {taken rest rest' : List Char} (h : NoDigit (taken ++ rest))
    (h' : Delimited rest') : NoDigit (taken ++ rest') := by
  cases taken with
  | nil => exact h'.noDigit
  | cons c taken => exact h

/-- No character that goes on with a number begins a delimited text. -/
theorem ne_of_delimited {cs : List Char} (h : Delimited cs) {c : Char}
    (hc : isAtomChar c = true) (rest : List Char) : cs ≠ c :: rest := by
  rintro rfl
  simp [h c rfl] at hc

theorem scanTail_exponent {c : Char} (hc : c = 'e' ∨ c = 'E') (minus : Bool) (whole : List Char)
    (fraction : Option (List Char)) (cs : List Char) :
    scanTail minus whole fraction (c :: cs) =
      (scanExponent cs).map fun (e, rest) => (⟨minus, whole, fraction, some e⟩, rest) := by
  rcases hc with rfl | rfl <;> cases h : scanExponent cs <;> simp [scanTail, h] <;> rfl

theorem took_of_scanTail {minus : Bool} {whole : List Char} {fraction : Option (List Char)}
    {cs rest : List Char} {n : Numeral} (h : scanTail minus whole fraction cs = .ok (n, rest)) :
    Took (scanTail minus whole fraction) cs n rest := by
  -- The letter may be of either case.
  have hexponent : ∀ c cs', (c = 'e' ∨ c = 'E') → isAtomChar c = true → cs = c :: cs' →
      Took (scanTail minus whole fraction) cs n rest := by
    rintro c cs' hc hatom rfl
    rw [scanTail_exponent hc] at h
    cases hscan : scanExponent cs' with
    | error e => simp [hscan, Except.map] at h
    | ok r =>
      obtain ⟨e, rest'⟩ := r
      simp only [hscan, Except.map, Except.ok.injEq, Prod.mk.injEq] at h
      obtain ⟨rfl, rfl⟩ := h
      obtain ⟨taken, rfl, hall, hread⟩ := took_of_scanExponent hscan
      refine ⟨c :: taken, rfl, List.forall_mem_cons.mpr ⟨hatom, hall⟩, fun rest'' hrest'' => ?_⟩
      rw [List.cons_append, scanTail_exponent hc, hread rest'' hrest'']
      rfl
  unfold scanTail at h
  split at h
  · exact hexponent _ _ (.inl rfl) (by decide) rfl
  · exact hexponent _ _ (.inr rfl) (by decide) rfl
  · obtain ⟨rfl, rfl⟩ := Prod.mk.inj (Except.ok.inj h)
    refine ⟨[], rfl, by simp, fun rest' hrest' => ?_⟩
    rw [List.nil_append, scanTail]
    · exact fun cs => ne_of_delimited hrest' (by decide) cs
    · exact fun cs => ne_of_delimited hrest' (by decide) cs

theorem took_of_scanFraction {minus : Bool} {whole cs rest : List Char} {n : Numeral}
    (h : scanFraction minus whole cs = .ok (n, rest)) :
    Took (scanFraction minus whole) cs n rest := by
  unfold scanFraction at h
  split at h
  · next cs =>
    split at h
    · cases h
    · next fraction tail hne hspan =>
      obtain ⟨rfl, hall, hno⟩ := of_spanDigits hspan
      obtain ⟨taken, rfl, hatoms, hread⟩ := took_of_scanTail h
      refine ⟨'.' :: (fraction ++ taken), by simp, ?_, fun rest' hrest' => ?_⟩
      · refine List.forall_mem_cons.mpr ⟨by decide, List.forall_mem_append.mpr ⟨?_, hatoms⟩⟩
        exact fun c hc => isAtomChar_of_isDigit (hall c hc)
      · obtain ⟨d, ds, rfl⟩ := List.exists_cons_of_ne_nil hne
        rw [List.cons_append, List.append_assoc, scanFraction,
          spanDigits_append hall (noDigit_append hno hrest')]
        exact hread rest' hrest'
  · next hdot =>
    obtain ⟨taken, rfl, hatoms, hread⟩ := took_of_scanTail h
    refine ⟨taken, rfl, hatoms, fun rest' hrest' => ?_⟩
    rw [scanFraction]
    · exact hread rest' hrest'
    · intro cs heq
      cases taken with
      | nil => exact ne_of_delimited hrest' (by decide) cs heq
      | cons c taken => exact hdot (taken ++ rest) (by rw [(List.cons.inj heq).1]; rfl)

theorem took_of_scanUnsigned {minus : Bool} {cs rest : List Char} {n : Numeral}
    (h : scanUnsigned minus cs = .ok (n, rest)) :
    ∃ d taken, d.isDigit = true ∧ cs = d :: taken ++ rest ∧
      (∀ c ∈ taken, isAtomChar c = true) ∧
      ∀ rest', Delimited rest' → scanUnsigned minus (d :: taken ++ rest') = .ok (n, rest') := by
  unfold scanUnsigned at h
  split at h
  · cases h
  · next whole tail hne hspan =>
    obtain ⟨taken, rfl, hatoms, hread⟩ := took_of_scanFraction h
    unfold spanWhole at hspan
    split at hspan
    · obtain ⟨rfl, rfl⟩ := Prod.mk.inj hspan
      refine ⟨'0', taken, by decide, rfl, hatoms, fun rest' hrest' => ?_⟩
      rw [List.cons_append, scanUnsigned, spanWhole]
      exact hread rest' hrest'
    · next hzero =>
      -- The digits end where the rest of the number begins, whatever comes behind it.
      obtain ⟨rfl, hall, hno⟩ := of_spanDigits hspan
      obtain ⟨d, ds, rfl⟩ := List.exists_cons_of_ne_nil hne
      refine ⟨d, ds ++ taken, hall d (by simp), by simp, ?_, fun rest' hrest' => ?_⟩
      · refine List.forall_mem_append.mpr ⟨fun c hc => ?_, hatoms⟩
        exact isAtomChar_of_isDigit (hall c (by simp [hc]))
      · have hspan' : spanWhole (d :: ds ++ (taken ++ rest')) = (d :: ds, taken ++ rest') := by
          rw [List.cons_append, spanWhole]
          · exact spanDigits_append hall (noDigit_append hno hrest')
          · rintro cs heq
            exact hzero (ds ++ (taken ++ rest)) (by rw [(List.cons.inj heq).1]; rfl)
        rw [show d :: (ds ++ taken) ++ rest' = d :: ds ++ (taken ++ rest') by simp,
          scanUnsigned, hspan']
        exact hread rest' hrest'

theorem took_of_scan {cs rest : List Char} {n : Numeral} (h : scan cs = .ok (n, rest)) :
    cs.head?.any (fun c => c == '-' || c.isDigit) = true ∧ Took scan cs n rest := by
  unfold scan at h
  split at h
  · obtain ⟨d, taken, hd, rfl, hatoms, hread⟩ := took_of_scanUnsigned h
    refine ⟨rfl, '-' :: d :: taken, rfl, ?_, hread⟩
    exact List.forall_mem_cons.mpr
      ⟨by decide, List.forall_mem_cons.mpr ⟨isAtomChar_of_isDigit hd, hatoms⟩⟩
  · obtain ⟨d, taken, hd, rfl, hatoms, hread⟩ := took_of_scanUnsigned h
    refine ⟨by simp [hd], d :: taken, rfl, ?_, fun rest' hrest' => ?_⟩
    · exact List.forall_mem_cons.mpr ⟨isAtomChar_of_isDigit hd, hatoms⟩
    · rw [List.cons_append, scan]
      · exact hread rest' hrest'
      · rintro cs heq
        rw [(List.cons.inj heq).1] at hd
        exact absurd hd (by decide)

end Numeral

theorem scan_of_numeral {atEnd : Fault} {cs rest : List Char} {n : Numeral}
    (h : numeral atEnd cs = .ok (n, rest)) : Numeral.scan cs = .ok (n, rest) := by
  unfold numeral at h
  split at h
  · cases h
  · cases h
  · next n' c tail heq =>
    split at h
    · cases h
    · obtain ⟨rfl, rfl⟩ := Prod.mk.inj (Except.ok.inj h)
      exact heq
  · next n' heq =>
    obtain ⟨rfl, rfl⟩ := Prod.mk.inj (Except.ok.inj h)
    exact heq

theorem took_of_numeral {atEnd : Fault} {cs rest : List Char} {n : Numeral}
    (h : numeral atEnd cs = .ok (n, rest)) : Took (numeral atEnd) cs n rest := by
  obtain ⟨-, taken, rfl, hatoms, hread⟩ := Numeral.took_of_scan (scan_of_numeral h)
  refine ⟨taken, rfl, hatoms, fun rest' hrest' => ?_⟩
  rw [numeral, hread rest' hrest']
  cases rest' with
  | nil => rfl
  | cons c rest' => simp [hrest'.noDigit c rfl]

/-- A number begins with its sign or its first digit, and is taken from every text. -/
theorem took_of_number {cs rest : List Char} {n : Number}
    (h : Read.number cs = .ok (n, rest)) :
    cs.head?.any (fun c => c == '-' || c.isDigit) = true ∧ Took Read.number cs n rest := by
  unfold Read.number at h
  cases hnumeral : numeral .endInValue cs with
  | error e => simp [hnumeral, bind, Except.bind] at h
  | ok r =>
    obtain ⟨m, tail⟩ := r
    simp only [hnumeral, bind, Except.bind] at h
    split at h
    · next value hvalue =>
      obtain ⟨rfl, rfl⟩ := Prod.mk.inj (Except.ok.inj h)
      refine ⟨(Numeral.took_of_scan (scan_of_numeral hnumeral)).1, ?_⟩
      obtain ⟨taken, rfl, hatoms, hread⟩ := took_of_numeral hnumeral
      refine ⟨taken, rfl, hatoms, fun rest' hrest' => ?_⟩
      simp [Read.number, hread rest' hrest', bind, Except.bind, hvalue, pure, Except.pure]
    · cases h

end SageEditor.Json
