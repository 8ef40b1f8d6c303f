/-
The meaning of a written pattern.

The text of a pattern is read as regular expressions are: a backslash makes a character literal or
makes a boundary of a letter, alternatives bind weaker than sequences, and a group is closed by
its own parenthesis.

* `Pattern.Matches` — what a pattern matches between what stands before and after it;
* `Pattern.MatchesAt` — the same for a span of a text;
* `Pattern.parse` — reads the text of a pattern, by its signs;
* `Pattern.exists_parse_text` — a pattern whose alternatives all stand in groups is read back from
  its text with the meaning that it has.

Design notes: the reader knows nothing about how patterns are written.  It refuses the operators
of regular expressions that it gives no meaning to, so an operator that is left unescaped makes
reading fail.  Which characters make a boundary is a parameter, since engines differ on it.
-/
import Mathlib.Data.List.Basic
import SageEditor.Highlight.Pattern

namespace SageEditor.Highlight

/-! ### Matches -/

/-- A boundary: a word character stands on one side only. -/
def Boundary (word : Char → Bool) (before after : List Char) : Prop :=
  before.getLast?.any word ≠ after.head?.any word

namespace Pattern

/-- The pattern matches the middle one of three parts of a text. -/
def Matches (word : Char → Bool) : Pattern → (before matched after : List Char) → Prop
  | empty, _, m, _ => m = []
  | literal c, _, m, _ => m = [c]
  | boundary, b, m, a => m = [] ∧ Boundary word b a
  | interior, b, m, a => m = [] ∧ ¬ Boundary word b a
  | seq p q, b, m, a =>
    ∃ m₁ m₂, m = m₁ ++ m₂ ∧ p.Matches word b m₁ (m₂ ++ a) ∧ q.Matches word (b ++ m₁) m₂ a
  | either p q, b, m, a => p.Matches word b m a ∨ q.Matches word b m a
  | group p, b, m, a => p.Matches word b m a

/-- The pattern matches the text from position `i` to position `j`. -/
def MatchesAt (word : Char → Bool) (p : Pattern) (text : List Char) (i j : ℕ) : Prop :=
  i ≤ j ∧ j ≤ text.length ∧
    p.Matches word (text.take i) ((text.take j).drop i) (text.drop j)

/-- Two patterns match the same parts of every text, whatever makes a boundary. -/
def Equivalent (p q : Pattern) : Prop :=
  ∀ word before matched after,
    p.Matches word before matched after ↔ q.Matches word before matched after

namespace Equivalent

variable {p p' q q' r : Pattern}

theorem refl (p : Pattern) : Equivalent p p := fun _ _ _ _ => Iff.rfl

theorem symm (h : Equivalent p q) : Equivalent q p := fun w b m a => (h w b m a).symm

theorem trans (h : Equivalent p q) (h' : Equivalent q r) : Equivalent p r :=
  fun w b m a => (h w b m a).trans (h' w b m a)

theorem seq (hp : Equivalent p p') (hq : Equivalent q q') :
    Equivalent (.seq p q) (.seq p' q') := fun w b _ a =>
  exists_congr fun m₁ => exists_congr fun m₂ =>
    and_congr_right' (and_congr (hp w b m₁ (m₂ ++ a)) (hq w (b ++ m₁) m₂ a))

theorem either (hp : Equivalent p p') (hq : Equivalent q q') :
    Equivalent (.either p q) (.either p' q') := fun w b m a =>
  or_congr (hp w b m a) (hq w b m a)

theorem group (hp : Equivalent p p') : Equivalent (.group p) (.group p') := hp

theorem seq_empty (p : Pattern) : Equivalent (.seq p .empty) p := by
  intro w b m a
  constructor
  · rintro ⟨m, _, rfl, hp, rfl⟩
    rwa [List.append_nil]
  · exact fun hp => ⟨m, [], (List.append_nil m).symm, hp, rfl⟩

theorem empty_seq (p : Pattern) : Equivalent (.seq .empty p) p := by
  intro w b m a
  constructor
  · rintro ⟨_, m, rfl, rfl, hp⟩
    rwa [List.append_nil] at hp
  · exact fun hp => ⟨[], m, rfl, rfl, by rwa [List.append_nil]⟩

theorem seq_assoc (p q r : Pattern) :
    Equivalent (.seq (.seq p q) r) (.seq p (.seq q r)) := by
  intro w b m a
  constructor
  · rintro ⟨_, m₃, rfl, ⟨m₁, m₂, rfl, hp, hq⟩, hr⟩
    exact ⟨m₁, m₂ ++ m₃, by simp, by simpa using hp, m₂, m₃, rfl, hq, by simpa using hr⟩
  · rintro ⟨m₁, _, rfl, hp, m₂, m₃, rfl, hq, hr⟩
    exact ⟨m₁ ++ m₂, m₃, by simp, ⟨m₁, m₂, rfl, by simpa using hp, hq⟩, by simpa using hr⟩

theorem either_assoc (p q r : Pattern) :
    Equivalent (.either (.either p q) r) (.either p (.either q r)) := by
  intro w b m a
  exact or_assoc

theorem matchesAt (h : Equivalent p q) (word : Char → Bool) (text : List Char) (i j : ℕ) :
    p.MatchesAt word text i j ↔ q.MatchesAt word text i j :=
  and_congr_right' (and_congr_right' (h word _ _ _))

end Equivalent

end Pattern

/-! ### Signs -/

/-- What the text of a pattern consists of. -/
inductive Sign where
  | char (c : Char)
  | boundary
  | interior
  | bar
  | opening
  | closing
deriving DecidableEq, Repr

/-- The characters that are operators when no backslash stands before them, apart from bars and
parentheses. -/
def operators : List Char :=
  ['.', '+', '*', '?', '[', ']', '{', '}', '^', '$']

/-- The characters that a backslash makes literal: those of ASCII that are no letters and no
digits, except the angle brackets, which would be boundaries. -/
def isEscapable (c : Char) : Bool :=
  ' ' < c && c.toNat < 127 && !c.isAlphanum && c != '<' && c != '>'

/-- Puts a sign in front of others, if there are any to read. -/
def Sign.before (s : Sign) : Option (List Sign) → Option (List Sign) :=
  Option.map (s :: ·)

/-- The signs of a text; nothing if it uses operators that patterns do not have. -/
def readSigns : List Char → Option (List Sign)
  | [] => some []
  | ['\\'] => none
  | '\\' :: c :: rest =>
    if c = 'b' then Sign.boundary.before (readSigns rest)
    else if c = 'B' then Sign.interior.before (readSigns rest)
    else if isEscapable c then (Sign.char c).before (readSigns rest)
    else none
  | c :: rest =>
    if c = '|' then Sign.bar.before (readSigns rest)
    else if c = '(' then Sign.opening.before (readSigns rest)
    else if c = ')' then Sign.closing.before (readSigns rest)
    else if operators.contains c then none
    else (Sign.char c).before (readSigns rest)

/-! ### Groups -/

/-- What has been read since the innermost open group began: the alternatives that a bar has
ended, and the sequence after them. -/
structure Frame where
  ended : Option Pattern
  current : Pattern

namespace Frame

def start : Frame := ⟨none, .empty⟩

/-- Appends a pattern to the sequence. -/
def add (f : Frame) (p : Pattern) : Frame := ⟨f.ended, .seq f.current p⟩

/-- Alternatives that have ended, or the pattern. -/
def join : Option Pattern → Pattern → Pattern
  | none, p => p
  | some q, p => .either q p

/-- The pattern that the frame holds. -/
def pattern (f : Frame) : Pattern := join f.ended f.current

/-- Ends the sequence at a bar. -/
def bar (f : Frame) : Frame := ⟨some f.pattern, .empty⟩

end Frame

/-- Reads signs into the innermost frame; `outer` holds those of the groups around it. -/
def build (frame : Frame) (outer : List Frame) : List Sign → Option Pattern
  | [] => if outer.isEmpty then some frame.pattern else none
  | .char c :: rest => build (frame.add (.literal c)) outer rest
  | .boundary :: rest => build (frame.add .boundary) outer rest
  | .interior :: rest => build (frame.add .interior) outer rest
  | .bar :: rest => build frame.bar outer rest
  | .opening :: rest => build .start (frame :: outer) rest
  | .closing :: rest =>
    match outer with
    | [] => none
    | f :: outer => build (f.add (.group frame.pattern)) outer rest

/-- The pattern that a text denotes. -/
def Pattern.parse (text : String) : Option Pattern :=
  (readSigns text.toList).bind (build .start [])

/-! ### Reading what was written -/

namespace Pattern

/-- The signs that a pattern is written with. -/
def signs : Pattern → List Sign
  | empty => []
  | literal c => [.char c]
  | boundary => [.boundary]
  | interior => [.interior]
  | seq p q => p.signs ++ q.signs
  | either p q => p.signs ++ .bar :: q.signs
  | group p => .opening :: p.signs ++ [.closing]

theorem readSigns_escape (c : Char) (rest : List Char) :
    readSigns (escape c ++ rest) = (Sign.char c).before (readSigns rest) := by
  by_cases h : metacharacters.contains c
  · have hc : isEscapable c = true ∧ c ≠ 'b' ∧ c ≠ 'B' := by
      have hall : metacharacters.all (fun d => isEscapable d && d != 'b' && d != 'B') = true := by
        decide
      simpa [and_assoc] using List.all_eq_true.mp hall c (by simpa using h)
    rw [escape, if_pos h]
    simp [readSigns, hc]
  · -- All that the reader treats apart is escaped by the writer.
    have hplain : ∀ d ∈ ['\\', '|', '(', ')'] ++ operators, c ≠ d := by
      intro d hd hcd
      have hsub : (['\\', '|', '(', ')'] ++ operators).all metacharacters.contains = true := by
        decide
      exact h (hcd ▸ List.all_eq_true.mp hsub d hd)
    have hop : operators.contains c = false := by
      have : c ∉ operators := fun hc => hplain c (by simp [hc]) rfl
      simpa using this
    have hslash : c ≠ '\\' := hplain '\\' (by decide)
    have hbar : c ≠ '|' := hplain '|' (by decide)
    have hopen : c ≠ '(' := hplain '(' (by decide)
    have hclose : c ≠ ')' := hplain ')' (by decide)
    rw [escape, if_neg h, List.singleton_append, readSigns]
    · rw [if_neg hbar, if_neg hopen, if_neg hclose, hop]
      rfl
    · simp [hslash]
    · simp [hslash]

/-- No sign of a pattern runs into the next one. -/
theorem readSigns_chars (p : Pattern) (rest : List Char) :
    readSigns (p.chars ++ rest) = (readSigns rest).map (p.signs ++ ·) := by
  induction p generalizing rest with
  | empty => simp [chars, signs]
  | literal c => exact readSigns_escape c rest
  | boundary => simp [chars, signs, readSigns, Sign.before]
  | interior => simp [chars, signs, readSigns, Sign.before]
  | seq p q ihp ihq =>
    rw [chars, List.append_assoc, ihp, ihq]
    simp [signs, Function.comp_def]
  | either p q ihp ihq =>
    have hbar : readSigns ('|' :: (q.chars ++ rest))
        = Sign.bar.before (readSigns (q.chars ++ rest)) := by
      rw [readSigns] <;> simp
    rw [chars, List.append_assoc, List.cons_append, ihp, hbar, ihq]
    simp [signs, Sign.before, Function.comp_def]
  | group p ih =>
    have hopen : ∀ cs, readSigns ('(' :: cs) = Sign.opening.before (readSigns cs) := by
      intro cs
      rw [readSigns] <;> simp
    have hclose : readSigns (')' :: rest) = Sign.closing.before (readSigns rest) := by
      rw [readSigns] <;> simp
    rw [chars, List.cons_append, List.cons_append, List.append_assoc, hopen, ih,
      List.singleton_append, hclose]
    simp [signs, Sign.before, Function.comp_def]

/-- Bare alternatives occur at the top, if they may, and directly inside of groups. -/
def Grouped : (alternatives : Bool) → Pattern → Prop
  | _, seq p q => p.Grouped false ∧ q.Grouped false
  | alternatives, either p q => alternatives = true ∧ p.Grouped false ∧ q.Grouped true
  | _, group p => p.Grouped true
  | _, _ => True

/-- What reading the signs of a pattern adds to the innermost frame. -/
def Extends (p : Pattern) : Prop :=
  ∀ frame outer rest, ∃ current,
    build frame outer (p.signs ++ rest) = build ⟨frame.ended, current⟩ outer rest ∧
      Equivalent current (seq frame.current p)

/-- What reading the signs of a pattern makes of a frame in which a sequence begins. -/
def Fills (p : Pattern) : Prop :=
  ∀ ended outer rest, ∃ frame,
    build ⟨ended, empty⟩ outer (p.signs ++ rest) = build frame outer rest ∧
      Equivalent frame.pattern (Frame.join ended p)

theorem Equivalent.join {p q : Pattern} (ended : Option Pattern) (h : Equivalent p q) :
    Equivalent (Frame.join ended p) (Frame.join ended q) := by
  cases ended with
  | none => exact h
  | some r => exact (Equivalent.refl r).either h

theorem Extends.fills {p : Pattern} (h : p.Extends) : p.Fills := by
  intro ended outer rest
  obtain ⟨current, hbuild, hcurrent⟩ := h ⟨ended, empty⟩ outer rest
  exact ⟨⟨ended, current⟩, hbuild, (hcurrent.trans (.empty_seq p)).join ended⟩

theorem Extends.group {p : Pattern} (h : p.Fills) : (Pattern.group p).Extends := by
  intro frame outer rest
  obtain ⟨inner, hbuild, hinner⟩ := h none (frame :: outer) (.closing :: rest)
  refine ⟨_, ?_, (Equivalent.refl frame.current).seq (p := frame.current) hinner.group⟩
  have hsigns : (Pattern.group p).signs ++ rest = .opening :: (p.signs ++ .closing :: rest) := by
    simp [signs]
  rw [hsigns, build, Frame.start, hbuild, build]
  rfl

theorem Extends.seq {p q : Pattern} (hp : p.Extends) (hq : q.Extends) :
    (Pattern.seq p q).Extends := by
  intro frame outer rest
  obtain ⟨c₁, hbuild₁, hc₁⟩ := hp frame outer (q.signs ++ rest)
  obtain ⟨c₂, hbuild₂, hc₂⟩ := hq ⟨frame.ended, c₁⟩ outer rest
  refine ⟨c₂, ?_, ?_⟩
  · rw [signs, List.append_assoc, hbuild₁, hbuild₂]
  · exact (hc₂.trans (hc₁.seq (.refl q))).trans (.seq_assoc frame.current p q)

theorem Fills.either {p q : Pattern} (hp : p.Extends) (hq : q.Fills) :
    (Pattern.either p q).Fills := by
  intro ended outer rest
  obtain ⟨c, hbuild₁, hc⟩ := hp ⟨ended, empty⟩ outer (.bar :: (q.signs ++ rest))
  obtain ⟨frame, hbuild₂, hframe⟩ := hq (some (Frame.join ended c)) outer rest
  refine ⟨frame, ?_, hframe.trans ?_⟩
  · -- The bar ends the sequence `c` and begins one with nothing in it.
    rw [signs, List.append_assoc, List.cons_append, hbuild₁, build]
    exact hbuild₂
  · -- The reader associates alternatives to the left, the writer to the right.
    have hjoin := ((hc.trans (.empty_seq p)).join ended).either (.refl q)
    cases ended with
    | none => exact hjoin
    | some r => exact hjoin.trans (.either_assoc r p q)

/-- A sequence extends the frame it is read into, and alternatives fill the frame of their group. -/
theorem extends_and_fills (p : Pattern) :
    (p.Grouped false → p.Extends) ∧ (p.Grouped true → p.Fills) := by
  induction p with
  | empty =>
    have h : empty.Extends := fun frame outer rest =>
      ⟨frame.current, rfl, (Equivalent.seq_empty frame.current).symm⟩
    exact ⟨fun _ => h, fun _ => h.fills⟩
  | literal c =>
    have h : (literal c).Extends := fun frame outer rest => ⟨_, rfl, .refl _⟩
    exact ⟨fun _ => h, fun _ => h.fills⟩
  | boundary =>
    have h : boundary.Extends := fun frame outer rest => ⟨_, rfl, .refl _⟩
    exact ⟨fun _ => h, fun _ => h.fills⟩
  | interior =>
    have h : interior.Extends := fun frame outer rest => ⟨_, rfl, .refl _⟩
    exact ⟨fun _ => h, fun _ => h.fills⟩
  | seq p q ihp ihq =>
    have h : (seq p q).Grouped false → (seq p q).Extends :=
      fun hg => (ihp.1 hg.1).seq (ihq.1 hg.2)
    exact ⟨h, fun hg => (h hg).fills⟩
  | either p q ihp ihq =>
    refine ⟨fun hg => absurd hg.1 (by decide), fun hg => ?_⟩
    exact Fills.either (ihp.1 hg.2.1) (ihq.2 hg.2.2)
  | group p ih =>
    exact ⟨fun hg => Extends.group (ih.2 hg), fun hg => (Extends.group (ih.2 hg)).fills⟩

/-- A pattern whose alternatives stand in groups can be read back from its text. -/
theorem exists_parse_text {p : Pattern} (h : p.Grouped true) :
    ∃ q, parse p.text = some q ∧ Equivalent q p := by
  obtain ⟨frame, hbuild, hframe⟩ := (extends_and_fills p).2 h none [] []
  have hsigns : readSigns p.chars = some p.signs := by
    simpa [readSigns] using readSigns_chars p []
  refine ⟨frame.pattern, ?_, hframe⟩
  rw [parse, text, String.toList_ofList, hsigns, Option.bind_some, Frame.start]
  simpa [build] using hbuild

end Pattern

end SageEditor.Highlight
