/-
Words of the shell in which nothing is expanded.

* `Literal` — a text begins with such a word, up to a rest;
* `Literal.exists_leaves` — its text is what is read without some characters that quote;
* `Literal.count_of_bare` — double quotes are taken out in pairs;
* `Literal.isInert_of_length_eq`, `Literal.exists_of_isInert` — a text is read as it is if and only
  if each of its characters stays.

Design notes: the relation has a constructor for each way to spell a part of a word, without the
depth of calls and the rest of the state that the reader carries.  It is used only for words
outside and inside of double quotes.
-/
import SageEditor.Shell.Reader

namespace SageEditor.Shell

/-- Whether a dollar sign before a text begins an expansion. -/
def opensExpansion : List Char → Bool
  | [] => false
  | c :: _ => c == '(' || c == '{' || isNameStart c || isSpecial c

/-- Whether a character before a text stands for itself without further ado. -/
def Surroundings.isPlain (at_ : Surroundings) (c : Char) (after : List Char) : Bool :=
  !at_.endBefore (c :: after) &&
    match c with
    | '$' | '\x60' | '"' => false
    | '\\' => after.isEmpty
    | '\'' => at_.quotes
    | _ => true

/-- Whether a character before a text is read as itself and stays. -/
def Surroundings.keeps (at_ : Surroundings) (c : Char) (after : List Char) : Bool :=
  match c, after with
  | '$', after => !opensExpansion after
  | '\\', d :: _ => d != '\n' && !at_.escapes d
  | c, after => at_.isPlain c after

/-- Whether every character of a text before another one is read as itself and stays. -/
def Surroundings.isInert (at_ : Surroundings) : List Char → (after : List Char) → Bool
  | [], _ => true
  | c :: cs, after => at_.keeps c (cs ++ after) && at_.isInert cs after

/-- A text begins with a word in which nothing is expanded, up to a rest. -/
inductive Literal : Surroundings → List Char → ShellWord → List Char → Prop where
  | ends {at_ : Surroundings} {rest : List Char} (hend : at_.endBefore rest = true) :
      Literal at_ rest [] rest
  | finished : Literal .bare [] [] []
  | continued {at_ : Surroundings} {src rest : List Char} {w : ShellWord}
      (h : Literal at_ src w rest) : Literal at_ ('\\' :: '\n' :: src) w rest
  | escaped {at_ : Surroundings} {src rest : List Char} {w : ShellWord} {c : Char} (hc : c ≠ '\n')
      (h : Literal at_ src w rest) :
      Literal at_ ('\\' :: c :: src)
        (.text (if at_.escapes c then [c] else ['\\', c]) true :: w) rest
  | dollar {at_ : Surroundings} {src rest : List Char} {w : ShellWord}
      (hopen : opensExpansion src = false) (h : Literal at_ src w rest) :
      Literal at_ ('$' :: src) (.text ['$'] at_.quotes :: w) rest
  | quotes {src more rest : List Char} {inner w : ShellWord}
      (hinner : Literal .doubleQuotes src inner ('"' :: more)) (h : Literal .bare more w rest) :
      Literal .bare ('"' :: src) ((if inner.isEmpty then [.text [] true] else inner) ++ w) rest
  | apostrophes {cs src rest : List Char} {w : ShellWord} (hcs : '\'' ∉ cs)
      (h : Literal .bare src w rest) :
      Literal .bare ('\'' :: (cs ++ '\'' :: src)) (.text cs true :: w) rest
  | char {at_ : Surroundings} {src rest : List Char} {w : ShellWord} {c : Char}
      (hc : at_.isPlain c src = true) (h : Literal at_ src w rest) :
      Literal at_ (c :: src) (.text [c] at_.quotes :: w) rest

/-- The characters that a quoted text may lose. -/
def quoting : List Char := ['"', '\'', '\\', '\n']

/-- A text is what another one leaves when some characters that quote are taken out. -/
inductive Leaves : List Char → List Char → Prop where
  | nil : Leaves [] []
  | keep {cs text : List Char} (c : Char) (h : Leaves cs text) : Leaves (c :: cs) (c :: text)
  | drop {cs text : List Char} {c : Char} (hc : c ∈ quoting) (h : Leaves cs text) :
      Leaves (c :: cs) text

namespace Leaves

variable {cs ds text more : List Char}

theorem refl : ∀ cs : List Char, Leaves cs cs
  | [] => .nil
  | c :: cs => .keep c (refl cs)

theorem append (h : Leaves cs text) (h' : Leaves ds more) :
    Leaves (cs ++ ds) (text ++ more) := by
  induction h with
  | nil => exact h'
  | keep c _ ih => exact .keep c ih
  | drop hc _ ih => exact .drop hc ih

theorem sublist (h : Leaves cs text) : text.Sublist cs := by
  induction h with
  | nil => exact .slnil
  | keep c _ ih => exact ih.cons_cons c
  | drop _ _ ih => exact ih.cons _

theorem count_eq {c : Char} (h : Leaves cs text) (hc : c ∉ quoting) :
    cs.count c = text.count c := by
  induction h with
  | nil => rfl
  | keep d _ ih => rw [List.count_cons, List.count_cons, ih]
  | drop hd _ ih => rw [List.count_cons_of_ne (ne_of_mem_of_not_mem hd hc), ih]

theorem getLast?_eq {c : Char} (h : Leaves (cs ++ [c]) text)
    (hc : c ∉ quoting) : text.getLast? = some c := by
  induction cs generalizing text with
  | nil =>
    cases h with
    | keep _ h => cases h; rfl
    | drop hc' _ => exact absurd hc' hc
  | cons d cs ih =>
    cases h with
    | keep _ h => rw [List.getLast?_cons, ih h]; rfl
    | drop _ h => exact ih h

end Leaves

namespace ShellWord

/-- The text of a word in which nothing is expanded. -/
def text (w : ShellWord) : List Char := w.flatMap fun p => p.literal?.getD []

@[simp] theorem text_nil : text [] = [] := rfl

@[simp] theorem text_cons (cs : List Char) (quoted : Bool) (w : ShellWord) :
    text (.text cs quoted :: w) = cs ++ text w := rfl

@[simp] theorem text_append (w w' : ShellWord) : text (w ++ w') = text w ++ text w' :=
  List.flatMap_append

end ShellWord

namespace Literal

variable {at_ : Surroundings} {src rest : List Char} {w : ShellWord}

theorem text_inner (inner : ShellWord) :
    ShellWord.text (if inner.isEmpty then [.text [] true] else inner) = ShellWord.text inner := by
  cases inner <;> rfl

theorem literal_ne_none (h : Literal at_ src w rest) : ∀ p ∈ w, p.literal? ≠ none := by
  induction h with
  | ends | finished => simp
  | continued _ ih => exact ih
  | escaped _ _ ih | dollar _ _ ih | apostrophes _ _ ih | char _ _ ih =>
    exact List.forall_mem_cons.mpr ⟨Option.some_ne_none _, ih⟩
  | @quotes _ _ _ inner _ _ _ ihinner ih =>
    refine List.forall_mem_append.mpr ⟨?_, ih⟩
    split
    · simp [Part.literal?]
    · exact ihinner

/-- What is read of a text, which its word leaves. -/
theorem exists_leaves (h : Literal at_ src w rest) :
    ∃ cs, src = cs ++ rest ∧ Leaves cs (ShellWord.text w) := by
  induction h with
  | ends _ | finished => exact ⟨[], rfl, .nil⟩
  | continued _ ih =>
    obtain ⟨cs, rfl, ih⟩ := ih
    exact ⟨_, rfl, .drop (by decide) (.drop (by decide) ih)⟩
  | @escaped at_ _ _ _ c _ _ ih =>
    obtain ⟨cs, rfl, ih⟩ := ih
    refine ⟨'\\' :: c :: cs, rfl, ?_⟩
    rw [ShellWord.text_cons]
    split
    · exact .drop (by decide) (.keep c ih)
    · exact .keep _ (.keep c ih)
  | dollar _ _ ih | char _ _ ih =>
    obtain ⟨cs, rfl, ih⟩ := ih
    exact ⟨_, rfl, .keep _ ih⟩
  | @quotes _ _ _ inner w _ _ ihinner ih =>
    obtain ⟨cs, hcs, ihinner⟩ := ihinner
    obtain ⟨ds, rfl, ih⟩ := ih
    refine ⟨'"' :: (cs ++ '"' :: ds), by simp [hcs], .drop (by decide) ?_⟩
    rw [ShellWord.text_append, text_inner]
    exact ihinner.append (.drop (by decide) ih)
  | @apostrophes cs _ _ _ _ _ ih =>
    obtain ⟨ds, rfl, ih⟩ := ih
    exact ⟨'\'' :: (cs ++ '\'' :: ds), by simp,
      .drop (by decide) ((Leaves.refl cs).append (.drop (by decide) ih))⟩

theorem count_escaped (escapes : Bool) (c : Char) :
    (if escapes then [c] else ['\\', c]).count '"' = [c].count '"' := by
  cases escapes <;> simp

/-- Between double quotes every double quote that is read belongs to the text. -/
theorem count_of_doubleQuotes (h : Literal at_ src w rest) (hat : at_ = .doubleQuotes) :
    src.count '"' = (ShellWord.text w).count '"' + rest.count '"' := by
  induction h with
  | ends _ => simp
  | finished | quotes _ _ _ _ | apostrophes _ _ _ => cases hat
  | continued _ ih => simp [ih hat]
  | escaped _ _ ih =>
    simp [count_escaped, List.count_cons, ih hat]
    omega
  | dollar _ _ ih => simp [ih hat]
  | char _ _ ih =>
    simp [ih hat, List.count_cons]
    omega

/-- Outside of double quotes they are taken out of a text in pairs. -/
theorem count_of_bare (h : Literal at_ src w rest) (hat : at_ = .bare) :
    src.count '"' % 2 = ((ShellWord.text w).count '"' + rest.count '"') % 2 := by
  induction h with
  | ends _ => simp
  | finished => rfl
  | continued _ ih =>
    simpa using ih hat
  | escaped _ _ ih =>
    have := ih hat
    simp [count_escaped, List.count_cons]
    omega
  | dollar _ _ ih => simpa using ih hat
  | char _ _ ih =>
    have := ih hat
    simp [List.count_cons]
    omega
  | quotes hinner _ _ ih =>
    have := ih hat
    have := hinner.count_of_doubleQuotes rfl
    simp only [ShellWord.text_append, text_inner, List.count_append, List.count_cons_self] at *
    omega
  | apostrophes _ _ ih =>
    have := ih hat
    simp
    omega

theorem keeps_of_isPlain {c : Char} {after : List Char} (hc : at_.isPlain c after = true) :
    at_.keeps c after = true := by
  unfold Surroundings.keeps
  split
  · simp [Surroundings.isPlain] at hc
  · simp [Surroundings.isPlain] at hc
  · exact hc

theorem length_add_le (h : Literal at_ src w rest) :
    (ShellWord.text w).length + rest.length ≤ src.length := by
  obtain ⟨cs, rfl, hcs⟩ := h.exists_leaves
  have := hcs.sublist.length_le
  rw [List.length_append]
  omega

theorem eq_append_of_length_eq (h : Literal at_ src w rest)
    (hlen : src.length = (ShellWord.text w).length + rest.length) :
    src = ShellWord.text w ++ rest := by
  obtain ⟨cs, rfl, hcs⟩ := h.exists_leaves
  rw [hcs.sublist.eq_of_length (by simpa using hlen.symm)]

theorem eq_doubleQuotes_of_escapes {c : Char}
    (hat : at_ = .bare ∨ at_ = .doubleQuotes) (h : at_.escapes c = false) : at_ = .doubleQuotes :=
  hat.resolve_left (by rintro rfl; simp [Surroundings.escapes] at h)

theorem isPlain_of_not_escapes {c : Char} (h : Surroundings.doubleQuotes.escapes c = false)
    (after : List Char) : Surroundings.doubleQuotes.isPlain c after = true := by
  simp [Surroundings.escapes] at h
  simp [Surroundings.isPlain, Surroundings.endBefore, Surroundings.quotes, h]
  split <;> simp_all

/-- A character that stays, before a word of which every character stays. -/
theorem isInert_text_cons {c : Char} (hkeeps : at_.keeps c (ShellWord.text w ++ rest) = true)
    (hinert : at_.isInert (ShellWord.text w) rest = true)
    (hword : at_ = .bare → w = (ShellWord.text w).map fun c => .text [c] false) :
    at_.isInert (ShellWord.text (.text [c] at_.quotes :: w)) rest = true ∧
      (at_ = .bare → .text [c] at_.quotes :: w =
        (ShellWord.text (.text [c] at_.quotes :: w)).map fun c => .text [c] false) := by
  rw [ShellWord.text_cons, List.singleton_append]
  refine ⟨Bool.and_eq_true_iff.mpr ⟨hkeeps, hinert⟩, ?_⟩
  rintro rfl
  rw [List.map_cons, ← hword rfl]
  rfl

/-- A word that has lost nothing of its text has not been quoted, and each of its characters
stays. -/
theorem isInert_of_length_eq (h : Literal at_ src w rest) (hat : at_ = .bare ∨ at_ = .doubleQuotes)
    (hlen : src.length = (ShellWord.text w).length + rest.length) :
    at_.isInert (ShellWord.text w) rest = true ∧
      (at_ = .bare → w = (ShellWord.text w).map fun c => .text [c] false) := by
  induction h with
  | ends _ | finished => exact ⟨rfl, fun _ => rfl⟩
  | continued h _ =>
    -- A continued line loses two characters.
    have := h.length_add_le
    simp only [List.length_cons] at hlen
    omega
  | @escaped at_ src rest w c hc h ih =>
    have hle := h.length_add_le
    cases hescapes : at_.escapes c with
    | true =>
      simp [hescapes] at hlen
      omega
    | false =>
      -- The backslash stays, which it does between double quotes only.
      obtain ⟨hinert, -⟩ := ih hat (by simp [hescapes] at hlen; omega)
      obtain rfl := eq_doubleQuotes_of_escapes hat hescapes
      have hkeeps := keeps_of_isPlain (isPlain_of_not_escapes hescapes (ShellWord.text w ++ rest))
      simp [hescapes, hc, Surroundings.isInert, Surroundings.keeps, hinert] at hkeeps ⊢
      exact hkeeps
  | @dollar at_ src rest w hopen h ih =>
    have hlen : src.length = (ShellWord.text w).length + rest.length := by simp at hlen; omega
    obtain ⟨hinert, hword⟩ := ih hat hlen
    rw [h.eq_append_of_length_eq hlen] at hopen
    exact isInert_text_cons (by simp [Surroundings.keeps, hopen]) hinert hword
  | @char at_ src rest w c hc h ih =>
    have hlen : src.length = (ShellWord.text w).length + rest.length := by simp at hlen; omega
    obtain ⟨hinert, hword⟩ := ih hat hlen
    rw [h.eq_append_of_length_eq hlen] at hc
    exact isInert_text_cons (keeps_of_isPlain hc) hinert hword
  | quotes hinner h _ _ =>
    -- Double quotes and apostrophes are lost in any case.
    have := hinner.length_add_le
    have := h.length_add_le
    simp only [ShellWord.text_append, text_inner, List.length_append, List.length_cons] at *
    omega
  | apostrophes _ h _ =>
    have := h.length_add_le
    simp at hlen
    omega

theorem rest_cases (h : Literal at_ src w rest) :
    at_.endBefore rest = true ∨ at_ = .bare ∧ rest = [] := by
  induction h with
  | ends hend => exact .inl hend
  | finished => exact .inr ⟨rfl, rfl⟩
  | quotes _ _ _ ih => exact ih
  | continued _ ih | escaped _ _ ih | dollar _ _ ih | apostrophes _ _ ih | char _ _ ih => exact ih

theorem rest_of_doubleQuotes (h : Literal .doubleQuotes src w rest) :
    ∃ more, rest = '"' :: more := by
  obtain hend | ⟨hat, -⟩ := h.rest_cases
  · cases rest with
    | nil => cases hend
    | cons c more => exact ⟨more, by rw [beq_iff_eq.mp hend]⟩
  · cases hat

theorem keeps_cases {at_ : Surroundings} {c : Char} {after : List Char}
    (h : at_.keeps c after = true) :
    c = '$' ∧ opensExpansion after = false ∨
      (∃ d more, c = '\\' ∧ after = d :: more ∧ d ≠ '\n' ∧ at_.escapes d = false) ∨
      at_.isPlain c after = true := by
  unfold Surroundings.keeps at h
  split at h
  · exact .inl ⟨rfl, by simpa using h⟩
  · exact .inr (.inl ⟨_, _, rfl, rfl, by simpa using h⟩)
  · exact .inr (.inr h)

/-- A text of which every character stays is read as it is. -/
theorem exists_of_isInert {at_ : Surroundings} {rest : List Char}
    (hat : at_ = .bare ∨ at_ = .doubleQuotes) (hend : Literal at_ rest [] rest) :
    ∀ {cs : List Char}, at_.isInert cs rest = true →
      ∃ w, Literal at_ (cs ++ rest) w rest ∧ ShellWord.text w = cs ∧
        ∀ p ∈ w, p.isQuoted = at_.quotes
  | [], _ => ⟨[], hend, rfl, by simp⟩
  | c :: cs, hinert => by
    obtain ⟨hkeeps, hcs⟩ := Bool.and_eq_true_iff.mp hinert
    obtain ⟨rfl, hopen⟩ | ⟨d, more, rfl, hafter, hd, hescapes⟩ | hplain := keeps_cases hkeeps
    · obtain ⟨w, hlit, rfl, hquoted⟩ := exists_of_isInert hat hend hcs
      exact ⟨_, .dollar hopen hlit, rfl, List.forall_mem_cons.mpr ⟨rfl, hquoted⟩⟩
    · -- A backslash that stays is read together with the character behind it.
      obtain rfl := eq_doubleQuotes_of_escapes hat hescapes
      cases cs with
      | nil =>
        obtain ⟨_, rfl⟩ := hend.rest_of_doubleQuotes
        cases hafter
        cases hescapes
      | cons _ cs =>
        obtain ⟨rfl, rfl⟩ := List.cons.inj hafter
        obtain ⟨-, hcs⟩ := Bool.and_eq_true_iff.mp hcs
        obtain ⟨w, hlit, rfl, hquoted⟩ := exists_of_isInert hat hend hcs
        exact ⟨_, .escaped hd hlit, by simp [hescapes], List.forall_mem_cons.mpr ⟨rfl, hquoted⟩⟩
    · obtain ⟨w, hlit, rfl, hquoted⟩ := exists_of_isInert hat hend hcs
      exact ⟨_, .char hplain hlit, rfl, List.forall_mem_cons.mpr ⟨rfl, hquoted⟩⟩

theorem keeps_cons (hat : at_ = .bare ∨ at_ = .doubleQuotes) (c d : Char) (after : List Char) :
    at_.keeps c (d :: after) = at_.keeps c [d] := by
  unfold Surroundings.keeps
  rcases hat with rfl | rfl <;> split <;> simp_all <;> rfl

/-- Of what follows a text only the first character matters. -/
theorem isInert_cons (hat : at_ = .bare ∨ at_ = .doubleQuotes) (d : Char) (after : List Char) :
    ∀ cs : List Char, at_.isInert cs (d :: after) = at_.isInert cs [d]
  | [] => rfl
  | [c] => by
    rw [Surroundings.isInert, List.nil_append, keeps_cons hat]
    rfl
  | c :: e :: cs => by
    have hrest := isInert_cons hat d after (e :: cs)
    rw [Surroundings.isInert, hrest, List.cons_append, keeps_cons hat,
      ← keeps_cons hat c e (cs ++ [d])]
    rfl

theorem exists_keeps_of_isInert {c : Char} {cs after : List Char}
    (h : at_.isInert cs after = true) (hc : c ∈ cs) : ∃ after', at_.keeps c after' = true := by
  induction cs with
  | nil => cases hc
  | cons d cs ih =>
    obtain ⟨hd, hcs⟩ := Bool.and_eq_true_iff.mp h
    obtain rfl | hc := List.mem_cons.mp hc
    · exact ⟨_, hd⟩
    · exact ih hcs hc

theorem not_mem_of_isInert {cs after : List Char} (h : at_.isInert cs after = true) :
    '"' ∉ cs := by
  intro hmem
  obtain ⟨after', hkeeps⟩ := exists_keeps_of_isInert h hmem
  simp [Surroundings.keeps, Surroundings.isPlain] at hkeeps

/-- A text between double quotes is read as it is if each of its characters stays there. -/
theorem exists_quoted {cs : List Char} (hcs : Surroundings.doubleQuotes.isInert cs ['"'] = true)
    (hend : Literal .bare rest [] rest) :
    ∃ w, Literal .bare ('"' :: (cs ++ '"' :: rest)) w rest ∧ ShellWord.text w = cs ∧ w ≠ [] ∧
      ∀ p ∈ w, p.isQuoted = true := by
  rw [← isInert_cons (.inr rfl) '"' rest cs] at hcs
  obtain ⟨inner, hinner, rfl, hquoted⟩ := exists_of_isInert (.inr rfl) (.ends rfl) hcs
  refine ⟨_, .quotes hinner hend, by rw [List.append_nil, text_inner], ?_, ?_⟩
  · cases inner <;> simp
  · cases inner with
    | nil => simp [Part.isQuoted]
    | cons p inner => simpa [Surroundings.quotes] using hquoted

/-- A text between double quotes is read as it is only if each of its characters stays there. -/
theorem isInert_of_quoted {cs src : List Char} (h : Literal .bare ('"' :: src) w rest)
    (hsrc : src = cs ++ '"' :: rest) (htext : ShellWord.text w = cs) :
    Surroundings.doubleQuotes.isInert cs ['"'] = true := by
  cases h with
  | ends hend => cases hend
  | char hc _ => cases hc
  | @quotes _ more _ inner w hinner h =>
    obtain ⟨read, hread, hleaves⟩ := hinner.exists_leaves
    obtain ⟨behind, rfl, hbehind⟩ := h.exists_leaves
    -- What is read between the quotes and behind them has the length of the text.
    have hall : read ++ '"' :: behind = cs ++ ['"'] := by
      refine List.append_cancel_right (?_ : _ ++ rest = _ ++ rest)
      rw [List.append_assoc, List.append_assoc]
      exact hread.symm.trans hsrc
    have hlen := congrArg List.length hall
    rw [ShellWord.text_append, text_inner] at htext
    have htext' := congrArg List.length htext
    have := hleaves.sublist.length_le
    have := hbehind.sublist.length_le
    simp only [List.length_append, List.length_cons, List.length_nil] at hlen htext'
    obtain ⟨hinert, -⟩ := h.isInert_of_length_eq (.inl rfl) (by rw [List.length_append]; omega)
    obtain ⟨hquoted, -⟩ := hinner.isInert_of_length_eq (.inr rfl)
      (by rw [hread, List.length_append]; omega)
    rw [← hbehind.sublist.eq_of_length (by omega)] at hall
    cases hw : ShellWord.text w with
    | nil =>
      rw [isInert_cons (.inr rfl)] at hquoted
      rwa [← htext, hw, List.append_nil]
    | cons c behind =>
      -- The last character is the closing quote, which would be left in the text.
      have hlast : (ShellWord.text w).getLast? = some '"' := by
        have := congrArg List.getLast? hall
        simpa [hw, List.getLast?_append, List.getLast?_cons_cons] using this
      exact absurd (List.mem_of_getLast? hlast) (not_mem_of_isInert hinert)

end Literal

end SageEditor.Shell
