/-
Actions that read, on a source.

* `Source.Alike` — two sources that differ only in the text and in the number of its line;
* `Reader.bind_eq_ok` — an action after another one succeeds where both do;
* `Reader.takeChar_apply`, `Reader.takeWhile_apply` — what the small actions return and leave.

Design notes: small actions always have a result, so that a sequence that begins with one is
rewritten to what follows it.  Where an action can fail, a sequence is taken apart by
`Reader.bind_eq_ok` and put together by `Reader.bind_of_eq_ok`.
-/
import SageEditor.Shell.Reader

namespace SageEditor.Shell

namespace Source

/-- The source after a character. -/
def next (s : Source) : Source :=
  match s.rest with
  | [] => s
  | '\n' :: rest => { s with rest, line := s.line + 1 + s.owed, owed := 0 }
  | _ :: rest => { s with rest }

/-- Two sources that differ in nothing but the text and the number of its line. -/
structure Alike (s s' : Source) : Prop where
  pushed : s'.pushed = s.pushed
  aliases : s'.aliases = s.aliases

theorem Alike.refl (s : Source) : s.Alike s := ⟨rfl, rfl⟩

theorem Alike.trans {s s' s'' : Source} (h : s.Alike s') (h' : s'.Alike s'') : s.Alike s'' :=
  ⟨h'.pushed.trans h.pushed, h'.aliases.trans h.aliases⟩

theorem rest_next (s : Source) : s.next.rest = s.rest.tail := by
  rw [next]
  split <;> simp_all

theorem alike_next (s : Source) : s.Alike s.next := by
  rw [next]
  split <;> exact ⟨rfl, rfl⟩

end Source

namespace Reader

variable {α β : Type} {s s' : Source}

theorem bind_eq_ok {x : Reader α} {f : α → Reader β} {b : β} :
    (x >>= f) s = .ok (b, s') ↔ ∃ a t, x s = .ok (a, t) ∧ f a t = .ok (b, s') := by
  show (x s >>= fun p => f p.1 p.2) = _ ↔ _
  cases x s with
  | error e => simp [bind, Except.bind]
  | ok p => exact ⟨fun h => ⟨p.1, p.2, rfl, h⟩, fun ⟨_, _, hp, h⟩ => by cases hp; exact h⟩

theorem bind_of_eq_ok {x : Reader α} {f : α → Reader β} {a : α} (h : x s = .ok (a, s')) :
    (x >>= f) s = f a s' := by
  show (x s >>= fun p => f p.1 p.2) = _
  rw [h]
  rfl

theorem pure_eq_ok {a b : α} : (pure a : Reader α) s = .ok (b, s') ↔ a = b ∧ s = s' := by
  show Except.ok (a, s) = _ ↔ _
  simp

theorem cons_eq_ok {a : α} {x : Reader (List α)} {as : List α} :
    (do return a :: (← x) : Reader (List α)) s = .ok (as, s') ↔
      ∃ bs, as = a :: bs ∧ x s = .ok (bs, s') := by
  rw [bind_eq_ok]
  constructor
  · rintro ⟨bs, t, hx, hpure⟩
    obtain ⟨rfl, rfl⟩ := pure_eq_ok.mp hpure
    exact ⟨bs, rfl, hx⟩
  · rintro ⟨bs, rfl, hx⟩
    exact ⟨bs, s', hx, rfl⟩

@[simp] theorem pure_apply {a : α} : (pure a : Reader α) s = .ok (a, s) := rfl

@[simp] theorem get_bind {f : Source → Reader β} : (get >>= f) s = f s s := rfl

@[simp] theorem set_bind {t : Source} {f : PUnit → Reader β} : (set t >>= f) s = f () t := rfl

@[simp] theorem ahead_bind {f : List Char → Reader β} : (ahead >>= f) s = f s.rest s := rfl

@[simp] theorem skip_bind {n : Nat} {f : Unit → Reader β} :
    (skip n >>= f) s = f () { s with rest := s.rest.drop n } := rfl

@[simp] theorem push_bind {t : Token} {f : Unit → Reader β} :
    (push t >>= f) s = f () { s with pushed := some t } := rfl

theorem takeChar_apply : takeChar s = .ok (s.rest.head?, s.next) := by
  obtain ⟨rest, line, owed, pushed, aliases, replacing⟩ := s
  rw [takeChar, get_bind]
  by_cases hline : rest.head? = some '\n'
  · obtain ⟨rest, rfl⟩ := List.head?_eq_some_iff.mp hline
    rfl
  · cases rest with
    | nil => rfl
    | cons c rest =>
      have hc : c ≠ '\n' := by simpa using hline
      simp [Source.next]

@[simp] theorem takeChar_bind {f : Option Char → Reader β} :
    (takeChar >>= f) s = f s.rest.head? s.next := bind_of_eq_ok takeChar_apply

@[simp] theorem skipContinuation_bind {f : Unit → Reader β} :
    (skipContinuation >>= f) s = f () { s with rest := s.rest.tail }.next := by
  simp [skipContinuation]

theorem takeWhile_apply (p : Char → Bool) : ∃ s', takeWhile p s = .ok (s.rest.takeWhile p, s') ∧
    s'.rest = s.rest.dropWhile p ∧ s.Alike s' := by
  refine ⟨_, rfl, ?_, rfl, rfl⟩
  have hsplit := List.takeWhile_append_dropWhile (p := p) (l := s.rest)
  exact (congrArg _ hsplit.symm).trans List.drop_left

@[simp] theorem fault_ne_ok {m : String} {b : β} : fault m s ≠ .ok (b, s') := by
  intro h
  cases h

theorem unexpectedFor_ne_ok {name expected : String} {b : β} :
    unexpectedFor name expected s ≠ .ok (b, s') := fault_ne_ok

theorem unexpected_ne_ok {t : Token} {b : β} : unexpected t s ≠ .ok (b, s') := fault_ne_ok

/-- A bound that is large enough leaves one for a first step and another one for what follows. -/
theorem eq_of_lt_bound {read : Nat → α} {k : Nat} {a : α} (h : ∀ n, k ≤ n → read (n + 1) = a) :
    ∀ n, k < n → read n = a
  | 0, hn => absurd hn (Nat.not_lt_zero k)
  | n + 1, hn => h n (Nat.le_of_lt_succ hn)

end Reader

end SageEditor.Shell
