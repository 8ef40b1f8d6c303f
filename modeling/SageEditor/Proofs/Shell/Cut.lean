/-
Where the words of a line are read.

* `Cut` — a word is read at the front of a text, behind what separates;
* `eq_of_cut` — the words of a line with a name and a quoted path are read from where these stand;
* `isWhole_of_readsAs` — words that are read from whole characters have whole characters.

Design notes: a word may be read from another place than its text stands at, and a text may be put
together from several places.  Characters other than blanks and double quotes are counted first:
none can be left over, so that what is read for a word differs from its text only in these two.
Blanks are never lost and double quotes only in pairs, and the path does not end in either.
-/
import SageEditor.Proofs.Shell.Call
import SageEditor.Proofs.Text.Octets

namespace SageEditor.Shell

/-- What stays outside of quotes neither ends a word nor quotes. -/
theorem not_mem_of_isInert_bare {c : Char} {cs after : List Char}
    (h : Surroundings.bare.isInert cs after = true) (hc : c ∈ cs) :
    c ∉ [' ', '\t', '\n', ';', '&', '|', '<', '>', '(', ')', '"', '\''] := by
  obtain ⟨after', hkeeps⟩ := Literal.exists_keeps_of_isInert h hc
  obtain ⟨rfl, -⟩ | ⟨d, more, rfl, -⟩ | hplain := Literal.keeps_cases hkeeps
  · decide
  · decide
  · obtain ⟨hends, hplain⟩ := Bool.and_eq_true_iff.mp hplain
    have hquotes : c ≠ '"' ∧ c ≠ '\'' := by
      constructor <;> rintro rfl <;> simp [Surroundings.quotes] at hplain
    simpa [Surroundings.endBefore, and_assoc, hquotes] using hends

/-- What is neither a blank nor a double quote. -/
def substance (cs : List Char) : List Char := cs.filter fun c => c != ' ' && c != '"'

@[simp] theorem substance_append (cs ds : List Char) :
    substance (cs ++ ds) = substance cs ++ substance ds :=
  List.filter_append ..

/-- At the front of a text some characters are read as a word, behind others that separate. -/
structure Cut (src before read : List Char) (w : ShellWord) (rest : List Char) : Prop where
  eq : src = before ++ (read ++ rest)
  blank : ∀ c ∈ before, c ∈ [' ', '\t', '\\', '\n']
  starts : startsWord (read ++ rest) = true
  literal : Literal .bare (read ++ rest) w rest

theorem Lexes.exists_cut {s s' : Source} {w : ShellWord} (h : Lexes s (.word w) s') :
    ∃ before read v, w = ShellWord.joined v ∧ Cut s.rest before read v s'.rest := by
  generalize ht : Token.word w = t at h
  cases h with
  | @word _ pre src v hrest hpre hstarts hlit =>
    obtain ⟨read, rfl, -⟩ := hlit.exists_leaves
    exact ⟨pre, read, v, Token.word.inj ht, hrest, hpre, hstarts, hlit⟩
  | mark _ _ hmark => exact absurd ht.symm (hmark w)

namespace Cut

variable {src before read rest : List Char} {w : ShellWord}

theorem leaves (h : Cut src before read w rest) : Leaves read w.text := by
  obtain ⟨cs, hcs, hleaves⟩ := h.literal.exists_leaves
  obtain rfl := List.append_cancel_right hcs
  exact hleaves

theorem read_ne_nil (h : Cut src before read w rest) : read ≠ [] := by
  rintro rfl
  have hstarts := h.starts
  rw [List.nil_append] at hstarts
  obtain hend | ⟨-, rfl⟩ := h.literal.rest_cases
  · cases rest with
    | nil => cases hend
    | cons c rest => simp [startsWord, hend] at hstarts
  · cases hstarts

theorem head?_ne (h : Cut src before read w rest) : (read ++ rest).head? ≠ some ' ' := by
  intro hhead
  obtain ⟨_, hsrc⟩ := List.head?_eq_some_iff.mp hhead
  have hstarts := h.starts
  rw [hsrc] at hstarts
  cases hstarts

/-- Double quotes are lost in pairs. -/
theorem count_mod_two (h : Cut src before read w rest) :
    read.count '"' % 2 = w.text.count '"' % 2 := by
  have hcount := h.literal.count_of_bare rfl
  rw [List.count_append] at hcount
  omega

/-- What has lost nothing has no blanks and no double quotes. -/
theorem eq_of_length_le (h : Cut src before read w rest) (hlen : read.length ≤ w.text.length) :
    read = w.text ∧ ' ' ∉ read ∧ '"' ∉ read := by
  have hread := h.leaves.sublist.eq_of_length_le hlen
  obtain ⟨hinert, -⟩ := h.literal.isInert_of_length_eq (.inl rfl)
    (by rw [List.length_append, hread])
  have hmem : ∀ c ∈ read, c ∉ [' ', '\t', '\n', ';', '&', '|', '<', '>', '(', ')', '"', '\''] :=
    fun c hc => not_mem_of_isInert_bare hinert (hread ▸ hc)
  exact ⟨hread.symm, fun hc => hmem _ hc (by decide), fun hc => hmem _ hc (by decide)⟩

theorem getLast?_read {cs : List Char} {c : Char} (h : Cut src before read w rest)
    (hcs : before ++ read = cs ++ [c]) : read.getLast? = some c := by
  have hlast := congrArg List.getLast? hcs
  rwa [List.getLast?_append_of_ne_nil _ h.read_ne_nil, List.getLast?_concat] at hlast

/-- What does not quote stays at the end of a word. -/
theorem getLast?_text (cs : List Char) {c : Char} (h : Cut src before read w rest)
    (hcs : before ++ read = cs ++ [c]) (hc : c ∉ quoting) : w.text.getLast? = some c := by
  obtain ⟨front, rfl⟩ := List.getLast?_eq_some_iff.mp (h.getLast?_read hcs)
  exact h.leaves.getLast?_eq hc

theorem count_before (h : Cut src before read w rest) : before.count '"' = 0 :=
  List.count_eq_zero.mpr fun hmem => absurd (h.blank _ hmem) (by decide)

end Cut

/-- A blank behind a text is read as a word with that text only if the text ends in it. -/
theorem Cut.ne_concat_blank {name before read rest src : List Char} {v : ShellWord}
    (h : Cut src before read v rest) (hname : v.text = name) : before ++ read ≠ name ++ [' '] := by
  intro hmore
  obtain ⟨front, rfl⟩ := List.getLast?_eq_some_iff.mp (h.getLast?_read hmore)
  rw [← List.append_assoc] at hmore
  obtain rfl := List.append_cancel_right hmore
  have hcount := h.leaves.count_eq (c := ' ') (by decide)
  rw [hname, List.count_append, List.count_append, List.count_singleton_self] at hcount
  have hbefore := List.count_le_length (a := ' ') (l := before)
  obtain ⟨-, hblank, -⟩ := h.eq_of_length_le (by simp [hname]; omega)
  exact hblank (by simp)

/-- A word that reaches a double quote ends with it, if what is behind it does not count. -/
theorem Cut.eq_concat (front : List Char) {tail before read rest : List Char} {v : ShellWord}
    {c : Char} (h : Cut (front ++ '"' :: tail) before read v rest)
    (hsubstance : substance (before ++ read) = substance front)
    (hlength : front.length < (before ++ read).length)
    (hlast : v.text.getLast? = some c) (hc : c ≠ ' ')
    (hjoin : ∀ cs ds, tail = cs ++ ds → substance cs = [] → cs = [] ∨ cs = [' ']) :
    before ++ read = front ++ ['"'] ∧ rest = tail := by
  have heq := h.eq
  rw [← List.append_assoc] at heq
  obtain ⟨more, hmore, hrest⟩ | ⟨more, hmore, -⟩ := List.append_eq_append_iff.mp heq
  · cases more with
    | nil =>
      rw [hmore, List.append_nil] at hlength
      exact absurd hlength (Nat.lt_irrefl _)
    | cons d more =>
      obtain ⟨hd, htail⟩ := List.cons.inj hrest
      subst hd
      have hnil : substance more = [] := by
        rw [hmore, substance_append] at hsubstance
        exact List.append_cancel_left (hsubstance.trans (List.append_nil _).symm)
      obtain rfl | rfl := hjoin more rest htail hnil
      · exact ⟨hmore, htail.symm⟩
      · have hblank := h.getLast?_text (front ++ ['"']) (by simpa using hmore) (by decide)
        exact absurd (Option.some.inj (hlast.symm.trans hblank)) hc
  · rw [hmore, List.length_append] at hlength
    omega

/-- A path between double quotes is read from the first of them to the last. -/
theorem Cut.eq_quoted {path tail before read rest : List Char} {v : ShellWord} {c : Char}
    (h : Cut (' ' :: '"' :: (path ++ '"' :: tail)) before read v rest) (hpath : v.text = path)
    (hsubstance : substance read = substance path) (hlast : path.getLast? = some c) (hc : c ≠ ' ')
    (hjoin : ∀ cs ds, tail = cs ++ ds → substance cs = [] → cs = [] ∨ cs = [' ']) :
    before = [' '] ∧ read = '"' :: (path ++ ['"']) ∧ rest = tail := by
  -- The blank stands before the word, which begins with the quote.
  obtain ⟨rfl, read, rfl, heq⟩ : before = [' '] ∧
      ∃ more, read = '"' :: more ∧ path ++ '"' :: tail = more ++ rest := by
    have heq := h.eq
    cases before with
    | nil => exact absurd (congrArg List.head? heq).symm h.head?_ne
    | cons d before =>
      obtain ⟨hd, heq⟩ := List.cons.inj heq
      cases before with
      | cons e before =>
        obtain ⟨he, -⟩ := List.cons.inj heq
        exact absurd (h.blank e (by simp)) (by rw [← he]; decide)
      | nil =>
        obtain ⟨e, more, rfl⟩ := List.exists_cons_of_ne_nil h.read_ne_nil
        obtain ⟨he, heq⟩ := List.cons.inj heq
        exact ⟨by rw [hd], more, by rw [he], heq⟩
  have hlong : path.length < read.length := by
    by_contra hshort
    obtain ⟨more, rfl⟩ := List.prefix_of_prefix_length_le ⟨rest, heq.symm⟩ ⟨_, rfl⟩
      (Nat.le_of_not_lt hshort)
    cases more with
    | nil =>
      -- Only the first quote would be lost.
      have hparity := h.count_mod_two
      rw [hpath, List.append_nil, List.count_cons_self] at hparity
      omega
    | cons d more =>
      obtain ⟨-, -, hquote⟩ := h.eq_of_length_le (by simp [hpath])
      exact hquote List.mem_cons_self
  obtain ⟨hread, hrest⟩ := h.eq_concat (' ' :: '"' :: path)
    (by simpa [substance] using hsubstance) (by simpa using hlong) (hpath ▸ hlast) hc hjoin
  exact ⟨rfl, by simpa using hread, hrest⟩

section

variable {name path tail before₁ read₁ rest₁ before₂ read₂ rest₂ : List Char} {v₁ v₂ : ShellWord}
  {c : Char} (h₁ : Cut (name ++ ' ' :: '"' :: (path ++ '"' :: tail)) before₁ read₁ v₁ rest₁)
  (h₂ : Cut rest₁ before₂ read₂ v₂ rest₂) (hname : v₁.text = name) (hpath : v₂.text = path)
  (htail : (substance tail).length ≤ (substance rest₂).length)
  (hlast : path.getLast? = some c) (hc : c ≠ ' ' ∧ c ≠ '"')
  (hjoin : ∀ cs ds, tail = cs ++ ds → substance cs = [] → cs = [] ∨ cs = [' '])

include h₁ h₂ hname hpath htail

/-- In what is read for two words nothing but blanks and double quotes is left over. -/
theorem substance_of_cut : substance before₁ = [] ∧ substance read₁ = substance name ∧
    substance before₂ = [] ∧ substance read₂ = substance path := by
  have hread₁ : (substance name).Sublist (substance read₁) := (hname ▸ h₁.leaves.sublist).filter _
  have hread₂ : (substance path).Sublist (substance read₂) := (hpath ▸ h₂.leaves.sublist).filter _
  have hall := congrArg (fun cs => (substance cs).length) (h₂.eq ▸ h₁.eq)
  have hmarks : substance (' ' :: '"' :: (path ++ '"' :: tail)) =
      substance path ++ substance tail := by
    simp [substance]
  simp only [substance_append, hmarks, List.length_append] at hall
  have hle₁ := hread₁.length_le
  have hle₂ := hread₂.length_le
  exact ⟨List.eq_nil_of_length_eq_zero (by omega), (hread₁.eq_of_length (by omega)).symm,
    List.eq_nil_of_length_eq_zero (by omega), (hread₂.eq_of_length (by omega)).symm⟩

include hlast hc hjoin

/-- A word that is read from a name and what opens a quote leaves too little for the path. -/
theorem not_cut_quote {more : List Char} (hmore : before₁ ++ read₁ = name ++ ' ' :: '"' :: more) :
    False := by
  obtain ⟨hbefore₁, hread₁, hbefore₂, hread₂⟩ := substance_of_cut h₁ h₂ hname hpath htail
  have hsubstance : substance more = [] := by
    have hall := congrArg substance hmore
    rw [substance_append, substance_append, hbefore₁, hread₁] at hall
    exact (List.append_cancel_left ((List.append_nil _).trans hall)).symm
  have hsplit : path ++ '"' :: tail = more ++ rest₁ := by
    have heq := h₁.eq
    rw [← List.append_assoc, hmore, List.append_assoc] at heq
    exact List.cons_injective (List.cons_injective (List.append_cancel_left heq))
  have hodd : more.count '"' % 2 = 1 := by
    have hcount := congrArg (List.count '"') hmore
    have hparity := h₁.count_mod_two
    rw [List.count_append, List.count_append, h₁.count_before] at hcount
    rw [hname] at hparity
    simp only [List.count_cons_self, List.count_cons_of_ne (by decide : ' ' ≠ '"')] at hcount
    omega
  have hne : substance path ≠ [] :=
    List.ne_nil_of_mem (List.mem_filter.mpr ⟨List.mem_of_getLast? hlast, by simp [hc]⟩)
  obtain ⟨front, rfl, -⟩ | ⟨front, rfl, hrest⟩ := List.append_eq_append_iff.mp hsplit
  · rw [substance_append] at hsubstance
    exact hne (List.append_eq_nil_iff.mp hsubstance).1
  · subst hrest
    have hlength := h₂.leaves.sublist.length_le
    rw [hpath, List.length_append] at hlength
    have hmore : 0 < more.length := List.length_pos_iff.mpr (by rintro rfl; cases hodd)
    obtain ⟨hread, -⟩ := h₂.eq_concat front
      (by rw [substance_append, hbefore₂, hread₂, substance_append, hsubstance]; rfl)
      (by rw [List.length_append]; omega) (hpath ▸ hlast) hc.1 hjoin
    -- What is read has only the length of the path, so that no quote can be in it.
    have hsum := congrArg List.length hread
    rw [List.length_append, List.length_append, List.length_singleton] at hsum
    obtain ⟨-, -, hquote⟩ := h₂.eq_of_length_le (by rw [hpath, List.length_append]; omega)
    exact hquote (List.mem_of_getLast? (h₂.getLast?_read hread))

/-- A word that is read from a name and more would leave too little for the path. -/
theorem eq_nil_of_cut {more : List Char} (hmore : before₁ ++ read₁ = name ++ more) : more = [] := by
  have hsplit : ' ' :: '"' :: (path ++ '"' :: tail) = more ++ rest₁ := by
    have heq := h₁.eq
    rw [← List.append_assoc, hmore, List.append_assoc] at heq
    exact List.append_cancel_left heq
  match more with
  | [] => rfl
  | [d] =>
    obtain ⟨hd, -⟩ := List.cons.inj hsplit
    exact absurd (hd ▸ hmore) (h₁.ne_concat_blank hname)
  | d :: e :: more =>
    obtain ⟨hd, hsplit⟩ := List.cons.inj hsplit
    obtain ⟨he, -⟩ := List.cons.inj hsplit
    exact (not_cut_quote h₁ h₂ hname hpath htail hlast hc hjoin (hd ▸ he ▸ hmore)).elim

/-- Words with the texts that stand in a line are read from where these stand. -/
theorem eq_of_cut : before₁ = [] ∧ read₁ = name ∧ rest₁ = ' ' :: '"' :: (path ++ '"' :: tail) ∧
    before₂ = [' '] ∧ read₂ = '"' :: (path ++ ['"']) ∧ rest₂ = tail := by
  have hread₁ : before₁ ++ read₁ = name := by
    have hlength := h₁.leaves.sublist.length_le
    have heq := h₁.eq
    rw [← List.append_assoc] at heq
    obtain ⟨more, hmore, -⟩ | ⟨more, hmore, -⟩ := List.append_eq_append_iff.mp heq
    · obtain rfl := eq_nil_of_cut h₁ h₂ hname hpath htail hlast hc hjoin hmore
      rwa [List.append_nil] at hmore
    · have hsum := congrArg List.length hmore
      rw [List.length_append, List.length_append] at hsum
      rw [hname] at hlength
      rw [hmore, List.eq_nil_of_length_eq_zero (l := more) (by omega), List.append_nil]
  obtain rfl : before₁ = [] := by
    have hlength := h₁.leaves.sublist.length_le
    rw [hname, ← hread₁, List.length_append] at hlength
    exact List.eq_nil_of_length_eq_zero (by omega)
  rw [List.nil_append] at hread₁
  subst hread₁
  have hrest₁ := h₁.eq
  rw [List.nil_append] at hrest₁
  obtain rfl := List.append_cancel_left hrest₁
  refine ⟨rfl, rfl, rfl, ?_⟩
  obtain ⟨-, -, -, hread₂⟩ := substance_of_cut h₁ h₂ hname hpath htail
  exact h₂.eq_quoted hpath hread₂ hlast hc.1 hjoin

end

/-! ### Whole characters -/

open Text.Octets (IsWhole)

theorem isWhole_of_append_left {before cs : List Char} (hbefore : ∀ c ∈ before, c.toNat < 128)
    (h : IsWhole (before ++ cs)) : IsWhole cs := by
  induction before with
  | nil => exact h
  | cons c before ih =>
    obtain ⟨hc, hbefore⟩ := List.forall_mem_cons.mp hbefore
    exact ih hbefore (h.of_cons hc)

theorem Leaves.of_append_left {cs ds text : List Char} (hcs : ∀ c ∈ cs, c ∉ quoting)
    (h : Leaves (cs ++ ds) text) : ∃ more, text = cs ++ more ∧ Leaves ds more := by
  induction cs generalizing text with
  | nil => exact ⟨text, rfl, h⟩
  | cons c cs ih =>
    obtain ⟨hc, hcs⟩ := List.forall_mem_cons.mp hcs
    cases h with
    | drop hc' _ => exact absurd hc' hc
    | keep _ h =>
      obtain ⟨more, rfl, hmore⟩ := ih hcs h
      exact ⟨more, rfl, hmore⟩

/-- Characters that quote are whole ones, so that others stay whole without them. -/
theorem Leaves.isWhole {cs text : List Char} (h : Leaves cs text) (hcs : IsWhole cs) :
    IsWhole text := by
  induction hcs generalizing text with
  | nil => cases h; exact .nil
  | cons c hcs ih =>
    obtain ⟨a, ha⟩ | hlarge := Text.Octets.ofBytes_utf8EncodeChar c
    · rw [ha] at h
      cases h with
      | keep _ h =>
        have hwhole := IsWhole.cons c (ih h)
        rwa [ha] at hwhole
      | drop _ h => exact ih h
    · have hquoting : ∀ b ∈ quoting, b.toNat < 128 := by simp [quoting]
      obtain ⟨more, rfl, hmore⟩ := h.of_append_left fun b hb hmem =>
        absurd (hlarge b hb) (Nat.not_le.mpr (hquoting b hmem))
      exact .cons c (ih hmore)

theorem toNat_lt_of_endBefore {cs : List Char} (h : Surroundings.bare.endBefore cs = true) :
    ∀ c ∈ cs.head?, c.toNat < 128 := by
  have hends : ∀ c ∈ [' ', '\t', '\n', ';', '&', '|', '<', '>', '(', ')'], c.toNat < 128 := by
    simp
  cases cs with
  | nil => cases h
  | cons d cs =>
    rintro _ ⟨⟩
    exact hends d (List.contains_iff_mem.mp h)

/-- Words that are read from whole characters have whole characters. -/
theorem TakesWords.isWhole {s s' : Source} {ws : List ShellWord} (h : TakesWords s ws s')
    (hs : s.pushed = none) (hrest : IsWhole s.rest) : ∀ w ∈ ws, IsWhole w.text := by
  induction h with
  | done => simp
  | @word s u s' w ws ht _ ih =>
    cases ht with
    | pushed hpushed => cases hs.symm.trans hpushed
    | read _ hlexes =>
      obtain ⟨before, read, v, rfl, hcut⟩ := hlexes.exists_cut
      have hblank : ∀ c ∈ [' ', '\t', '\\', '\n'], c.toNat < 128 := by simp
      have hbehind : IsWhole (read ++ u.rest) := isWhole_of_append_left
        (fun c hc => hblank c (hcut.blank c hc)) (hcut.eq ▸ hrest)
      have hhead : ∀ c ∈ u.rest.head?, c.toNat < 128 := by
        obtain hend | ⟨-, hnil⟩ := hcut.literal.rest_cases
        · exact toNat_lt_of_endBefore hend
        · simp [hnil]
      obtain ⟨hread, hmore⟩ := hbehind.of_append hhead
      refine List.forall_mem_cons.mpr ⟨?_, ih (hlexes.alike.pushed.trans hs) hmore⟩
      rw [ShellWord.text_joined]
      exact hcut.leaves.isWhole hread

/-- The words of a call that is read from whole characters have whole characters. -/
theorem isWhole_of_readsAs {text : List Char} {call : List (List Char)}
    {more : List (List (List Char))} (h : ReadsAs text (call :: more)) (htext : IsWhole text) :
    ∀ cs ∈ call, IsWhole cs := by
  obtain ⟨c, rest, hnext, -, hcalls⟩ := h
  obtain ⟨ws, _, s', heq, -, htakes, -⟩ := Reader.takesWords_of_nextLine hnext hcalls
  obtain ⟨rfl, -⟩ := List.cons.inj heq
  exact List.forall_mem_map.mpr (htakes.isWhole rfl htext)

end SageEditor.Shell
