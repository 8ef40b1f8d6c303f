/-
Lines with a bare word and a quoted one.

* `IsBareWord` — a text that names a program without being quoted;
* `readsAs_line` — such a name and a path between double quotes are read as they stand, if each
  character of the path stays there;
* `of_readsAs` — they are read as they stand only then.

Design notes: the first word of a command may not look like a reserved word or an assignment, and
what is not quoted in it may not be a pattern.
-/
import SageEditor.Proofs.Shell.Cut
import SageEditor.Proofs.Shell.Line

namespace SageEditor.Shell

/-- A text that names a program although it is not quoted. -/
structure IsBareWord (cs : List Char) : Prop where
  present : cs ≠ []
  inert : Surroundings.bare.isInert cs [' '] = true
  head : cs.head? ≠ some '#' ∧ cs.head? ≠ some '~'
  noPattern : cs.all (!isMagic ·) = true
  notReserved : String.ofList cs ∉ reservedWords
  notAssignment : assignment? [.text cs false] = none

instance (cs : List Char) : Decidable (IsBareWord cs) :=
  decidable_of_iff (cs ≠ [] ∧ Surroundings.bare.isInert cs [' '] = true ∧
    (cs.head? ≠ some '#' ∧ cs.head? ≠ some '~') ∧ cs.all (!isMagic ·) = true ∧
      String.ofList cs ∉ reservedWords ∧ assignment? [.text cs false] = none)
    ⟨fun ⟨h, h', h'', h₃, h₄, h₅⟩ => ⟨h, h', h'', h₃, h₄, h₅⟩,
      fun ⟨h, h', h'', h₃, h₄, h₅⟩ => ⟨h, h', h'', h₃, h₄, h₅⟩⟩

/-! ### Bare words -/

theorem joined_map_text : ∀ {cs : List Char}, cs ≠ [] →
    ShellWord.joined (cs.map fun c => .text [c] false) = [.text cs false]
  | [c], _ => by simp [ShellWord.joined]
  | c :: d :: cs, _ => by
    have ih := joined_map_text (List.cons_ne_nil d cs)
    rw [List.map_cons, ShellWord.joined, ih]
    simp

theorem isConstant_bare {cs : List Char} : ShellWord.IsConstant [.text cs false] ↔
    cs.all (!isMagic ·) = true ∧ cs ≠ [] ∧ cs.head? ≠ some '~' := by
  constructor
  · rintro ⟨hfixed, hpresent, hhome⟩
    simpa [Part.isFixed, ShellWord.opensHome, Part.isQuoted, ShellWord.text, Part.literal?,
      and_assoc] using And.intro hfixed (And.intro hpresent hhome)
  · rintro ⟨hfixed, hpresent, hhome⟩
    refine ⟨?_, .inl (by simpa [ShellWord.text, Part.literal?] using hpresent), ?_⟩
    · simpa [Part.isFixed] using hfixed
    · simpa [ShellWord.opensHome] using hhome

theorem reserved?_bare {cs : List Char} :
    Token.reserved? (.word [.text cs false]) = none ↔ String.ofList cs ∉ reservedWords := by
  simp [Token.reserved?, ShellWord.plain?]

namespace IsBareWord

variable {cs : List Char}

theorem startsWord_append (h : IsBareWord cs) (rest : List Char) :
    startsWord (cs ++ ' ' :: rest) = true := by
  obtain ⟨c, cs, rfl⟩ := List.exists_cons_of_ne_nil h.present
  have hc := not_mem_of_isInert_bare h.inert List.mem_cons_self
  have hhash : c ≠ '#' := fun hc => h.head.1 (congrArg some hc)
  have hslash : c ≠ '\\' := by
    rintro rfl
    have hkeeps := (Bool.and_eq_true_iff.mp h.inert).1
    cases cs <;> simp [Surroundings.keeps, Surroundings.escapes] at hkeeps
  have hnext : ∀ d ∈ (cs ++ ' ' :: rest).head?, d ≠ '<' ∧ d ≠ '>' := by
    rintro d hd
    cases cs with
    | nil =>
      obtain rfl := Option.some.inj hd
      decide
    | cons e cs =>
      obtain rfl := Option.some.inj hd
      have he := not_mem_of_isInert_bare h.inert (List.mem_cons_of_mem _ List.mem_cons_self)
      simp_all
  have hredirect : (cs ++ ' ' :: rest).head? ≠ some '<' ∧ (cs ++ ' ' :: rest).head? ≠ some '>' :=
    ⟨fun hd => (hnext _ hd).1 rfl, fun hd => (hnext _ hd).2 rfl⟩
  rw [List.cons_append, startsWord]
  simp_all [Surroundings.endBefore]

/-- Before a blank a bare word is read as it stands. -/
theorem exists_literal (h : IsBareWord cs) (rest : List Char) :
    ∃ v, Literal .bare (cs ++ ' ' :: rest) v (' ' :: rest) ∧ v.joined = [.text cs false] := by
  have hinert := Literal.isInert_cons (.inl rfl) ' ' rest cs ▸ h.inert
  obtain ⟨v, hlit, rfl, -⟩ := Literal.exists_of_isInert (.inl rfl) (.ends rfl) hinert
  obtain ⟨-, hv⟩ := hlit.isInert_of_length_eq (.inl rfl) (List.length_append ..)
  exact ⟨v, hlit, by rw [hv rfl, joined_map_text h.present]; rw [← hv rfl]⟩

theorem isConstant (h : IsBareWord cs) : ShellWord.IsConstant [.text cs false] :=
  isConstant_bare.mpr ⟨h.noPattern, h.present, h.head.2⟩

theorem isCall {v : ShellWord} {ws : List ShellWord} (h : IsBareWord cs) (hv : v = [.text cs false])
    (hws : ∀ w ∈ ws, w.IsConstant) : IsCall (v :: ws) := by
  subst hv
  refine ⟨List.cons_ne_nil _ _, List.forall_mem_cons.mpr ⟨h.isConstant, hws⟩, ?_, ?_⟩
  · rintro _ ⟨⟩
    exact reserved?_bare.mpr h.notReserved
  · rintro _ ⟨⟩
    exact h.notAssignment

/-- What is read as it stands and names a program is a bare word. -/
theorem of_literal {rest : List Char} {v : ShellWord}
    (h : Literal .bare (cs ++ ' ' :: rest) v (' ' :: rest))
    (hv : v.text = cs) (hstarts : startsWord (cs ++ ' ' :: rest) = true)
    (hconstant : v.joined.IsConstant) (hreserved : Token.reserved? (.word v.joined) = none)
    (hassignment : assignment? v.joined = none) : IsBareWord cs := by
  obtain ⟨hinert, hparts⟩ := h.isInert_of_length_eq (.inl rfl) (by rw [hv, List.length_append])
  rw [hv, Literal.isInert_cons (.inl rfl)] at hinert
  have hpresent : cs ≠ [] := by
    rintro rfl
    cases hstarts
  have hjoined : v.joined = [.text cs false] := by
    rw [hparts rfl, hv, joined_map_text hpresent]
  rw [hjoined] at hconstant hreserved hassignment
  obtain ⟨hpattern, -, htilde⟩ := isConstant_bare.mp hconstant
  refine ⟨hpresent, hinert, ⟨?_, htilde⟩, hpattern, reserved?_bare.mp hreserved, hassignment⟩
  intro hhash
  obtain ⟨cs, rfl⟩ := List.head?_eq_some_iff.mp hhash
  cases hstarts

end IsBareWord

/-! ### Quoted texts -/

theorem isInert_append (at_ : Surroundings) (after : List Char) : ∀ cs ds : List Char,
    at_.isInert (cs ++ ds) after = (at_.isInert cs (ds ++ after) && at_.isInert ds after)
  | [], _ => by rw [Surroundings.isInert, List.nil_append, Bool.true_and]
  | c :: cs, ds => by
    rw [List.cons_append, Surroundings.isInert, Surroundings.isInert,
      isInert_append at_ after cs ds, List.append_assoc, Bool.and_assoc]

/-- What stays before a closing quote stays before a dot. -/
theorem isInert_dot : ∀ {cs : List Char}, Surroundings.doubleQuotes.isInert cs ['"'] = true →
    Surroundings.doubleQuotes.isInert cs ['.'] = true
  | [], _ => rfl
  | [c], h => by
    rw [Surroundings.isInert, Surroundings.isInert, Bool.and_true, List.nil_append] at h ⊢
    obtain ⟨rfl, -⟩ | ⟨_, _, rfl, hafter, -, hescapes⟩ | hplain := Literal.keeps_cases h
    · rfl
    · cases hafter
      cases hescapes
    · refine Literal.keeps_of_isPlain ?_
      unfold Surroundings.isPlain at hplain ⊢
      split at hplain <;> simp_all [Surroundings.endBefore]
  | c :: d :: cs, h => by
    obtain ⟨hc, hcs⟩ := Bool.and_eq_true_iff.mp h
    refine Bool.and_eq_true_iff.mpr ⟨?_, isInert_dot hcs⟩
    rw [List.cons_append, Literal.keeps_cons (.inr rfl)] at hc ⊢
    exact hc

/-! ### The line -/

variable {name path tail : List Char}

/-- Between double quotes a text is read as a word that stands for it. -/
theorem exists_quoted_word (hpath : Surroundings.doubleQuotes.isInert path ['"'] = true)
    (htail : Literal .bare tail [] tail) :
    ∃ w, Literal .bare ('"' :: (path ++ '"' :: tail)) w tail ∧ w.joined.text = path ∧
      w.joined.IsConstant := by
  obtain ⟨w, hw, htext, hne, hquoted⟩ := Literal.exists_quoted hpath htail
  refine ⟨w, hw, (ShellWord.text_joined w).trans htext,
    ShellWord.isConstant_joined.mpr ⟨?_, ?_, ?_⟩⟩
  · refine List.all_eq_true.mpr fun p hp => ?_
    have hliteral := hw.literal_ne_none p hp
    have hq := hquoted p hp
    cases p with
    | text cs q => simp_all [Part.isFixed, Part.isQuoted]
    | _ => exact absurd rfl hliteral
  · obtain ⟨p, hp⟩ := List.exists_mem_of_ne_nil w hne
    exact .inr (List.any_eq_true.mpr ⟨p, hp, hquoted p hp⟩)
  · cases w with
    | nil => rfl
    | cons p w =>
      have hq := hquoted p List.mem_cons_self
      cases p <;> simp_all [ShellWord.opensHome, Part.isQuoted]

theorem Joins.literal {calls : List (List ShellWord)} (h : Joins tail calls) :
    Literal .bare tail [] tail := by
  cases h with
  | nil => exact .finished
  | cons => exact .ends rfl

/-- A line with a bare word, a quoted one and calls that are joined to these. -/
theorem readsAs_line {calls : List (List ShellWord)} (hname : IsBareWord name)
    (hpath : Surroundings.doubleQuotes.isInert path ['"'] = true) (hcalls : Joins tail calls) :
    ReadsAs (name ++ ' ' :: '"' :: (path ++ '"' :: tail))
      ([name, path] :: calls.map (·.map ShellWord.text)) := by
  obtain ⟨v, hv, hjoined⟩ := hname.exists_literal ('"' :: (path ++ '"' :: tail))
  obtain ⟨w, hw, htext, hconstant⟩ := exists_quoted_word hpath hcalls.literal
  have hfollow : Follow (' ' :: (name ++ ' ' :: '"' :: (path ++ '"' :: tail)))
      [v.joined, w.joined] tail :=
    .cons (hname.startsWord_append _) hv (.cons rfl hw .nil)
  have hreads := readsAs_of_follow hfollow (hname.isCall hjoined (by simpa using hconstant)) hcalls
  have hvname : v.joined.text = name := by rw [hjoined]; simp
  rwa [List.map_cons, List.map_cons, List.map_cons, List.map_nil, hvname, htext] at hreads

/-- A line that is read as a name, a path and further calls which stand in it has a bare word for
the name, and between its quotes the path stays as it is. -/
theorem of_readsAs {more : List (List (List Char))} {c : Char}
    (h : ReadsAs (name ++ ' ' :: '"' :: (path ++ '"' :: tail)) ([name, path] :: more))
    (htail : substance (more.flatMap fun call => ['&', '&'] ++ call.flatten) = substance tail)
    (hlast : path.getLast? = some c) (hc : c ≠ ' ' ∧ c ≠ '"')
    (hjoin : ∀ cs ds, tail = cs ++ ds → substance cs = [] → cs = [] ∨ cs = [' ']) :
    IsBareWord name ∧ Surroundings.doubleQuotes.isInert path ['"'] = true := by
  obtain ⟨command, rest, hnext, -, hcalls⟩ := h
  obtain ⟨ws, more', s', heq, hconstant, htakes, hhead, hmore⟩ :=
    Reader.takesWords_of_nextLine hnext hcalls
  obtain ⟨hcall, rfl⟩ := List.cons.inj heq
  obtain ⟨w₁, _, rfl, hw₁, hcall⟩ := List.map_eq_cons_iff.mp hcall.symm
  obtain ⟨w₂, _, rfl, hw₂, hnil⟩ := List.map_eq_cons_iff.mp hcall
  obtain rfl := List.map_eq_nil_iff.mp hnil
  -- Nothing has been put back before the two words, so that both are read from the text.
  cases htakes with
  | @word _ u₁ _ _ _ ht₁ htakes =>
  cases htakes with
  | @word _ u₂ _ _ _ ht₂ hdone =>
  cases ht₁ with
  | pushed hpushed => cases hpushed
  | read _ hlexes₁ =>
  cases ht₂ with
  | pushed hpushed => cases hlexes₁.alike.pushed.symm.trans hpushed
  | read hu₁ hlexes₂ =>
  obtain ⟨before₁, read₁, v₁, rfl, hcut₁⟩ := hlexes₁.exists_cut
  obtain ⟨before₂, read₂, v₂, rfl, hcut₂⟩ := hlexes₂.exists_cut
  rw [ShellWord.text_joined] at hw₁ hw₂
  have hrest : (substance tail).length ≤ (substance u₂.rest).length := by
    have hdue := hdone.sublist_due
    rw [Source.due_of_none (hlexes₂.alike.pushed.trans hu₁)] at hdue
    rw [← htail]
    exact ((hmore.trans hdue).filter _).length_le
  obtain ⟨rfl, rfl, hrest₁, rfl, rfl, hrest₂⟩ :=
    eq_of_cut hcut₁ hcut₂ hw₁ hw₂ hrest hlast hc hjoin
  obtain ⟨hreserved, hassignment⟩ := hhead _ rfl
  refine ⟨?_, ?_⟩
  · -- The name ends before the blank, whatever stands behind that.
    have hliteral := hcut₁.literal
    have hstarts := hcut₁.starts
    rw [hrest₁] at hliteral hstarts
    exact .of_literal hliteral hw₁ hstarts (hconstant _ List.mem_cons_self) hreserved hassignment
  · exact hcut₂.literal.isInert_of_quoted (by simp) hw₂

end SageEditor.Shell
