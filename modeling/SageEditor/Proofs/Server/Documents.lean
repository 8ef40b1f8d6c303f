/-
The text of a document after any number of messages.

* `Event.texts` — the texts that an event gives a document;
* `HasText` — a document is open, and the last text that it was given;
* `Event.nextDocument` — what an event does to one document;
* `documents_last_given` — hovers and completions are answered from that text.

Design notes: the server keeps all documents in one list.  `Server.next_document?` says what an
event does to the document of one URL alone, so that from there on a history is a history of one
document.
-/
import Mathlib.Data.List.Induction
import SageEditor.Proofs.Server.History

namespace SageEditor

namespace Event

/-- The texts that an event gives the document of a URL. -/
def texts (url : String) : Event → List String
  | .told (.opened u text) => if u = url then [text] else []
  | .told (.changed u texts) => if u = url then texts else []
  | _ => []

/-- Whether an event is about the document of a URL. -/
def About (url : String) : Event → Prop
  | .told (.opened u _) | .told (.changed u _) | .told (.closed u) => u = url
  | _ => False

/-- The document of a URL after an event. -/
def nextDocument (url : String) (d : Option Document) : Event → Option Document
  | .told (.opened u text) => if u = url then some ⟨text⟩ else d
  | .told (.changed u texts) => if u = url then d.map fun d => ⟨texts.getLastD d.text⟩ else d
  | .told (.closed u) => if u = url then none else d
  | _ => d

end Event

/-- A document is open, and `text` is the last text that it was given, when it was opened or
later. -/
inductive HasText (url : String) : List Event → String → Prop
  | given {before first after} (hafter : .told (.closed url) ∉ after) :
      HasText url (before ++ .told (.opened url first) :: after)
        ((after.flatMap (·.texts url)).getLastD first)

/-! ### One document among others -/

section

variable {α : Type} (key : String) (ds : List (String × α))

theorem lookup_cons_ite (k : String) (a : α) :
    ((k, a) :: ds).lookup key = if k = key then some a else ds.lookup key := by
  by_cases h : k = key
  · rw [if_pos h, h, List.lookup_cons_self]
  · have hne : (key == k) = false := beq_false_of_ne (Ne.symm h)
    rw [if_neg h, List.lookup_cons, hne]

theorem lookup_filter_ne (k : String) :
    (ds.filter (·.1 ≠ k)).lookup key = if k = key then none else ds.lookup key := by
  induction ds with
  | nil => simp
  | cons d ds ih =>
    obtain ⟨k', a⟩ := d
    by_cases hk : k' = k
    · subst hk
      rw [List.filter_cons_of_neg (by simp), ih, lookup_cons_ite]
      split <;> rfl
    · rw [List.filter_cons_of_pos (by simpa using hk), lookup_cons_ite, lookup_cons_ite, ih]
      by_cases h : k = key
      · have hkey : k' ≠ key := h ▸ hk
        rw [if_pos h, if_pos h, if_neg hkey]
      · rw [if_neg h, if_neg h]

theorem lookup_map_ite (k : String) (a : α) :
    (ds.map fun d => if d.1 = k then (k, a) else d).lookup key =
      if k = key then (ds.lookup key).map fun _ => a else ds.lookup key := by
  induction ds with
  | nil => simp
  | cons d ds ih =>
    obtain ⟨k', b⟩ := d
    rw [List.map_cons, lookup_cons_ite]
    by_cases hk : k' = k
    · subst hk
      rw [if_pos rfl, lookup_cons_ite, ih]
      split <;> rfl
    · rw [if_neg hk, lookup_cons_ite, ih]
      by_cases h : k = key
      · have hkey : k' ≠ key := h ▸ hk
        rw [if_pos h, if_pos h, if_neg hkey, if_neg hkey]
      · rw [if_neg h, if_neg h]

end

namespace Server

variable (s : Server) (files : FileSystem) (url : String)

theorem document?_openDocument (u text : String) :
    (s.openDocument u text).document? url = if u = url then some ⟨text⟩ else s.document? url := by
  rw [document?, openDocument, lookup_cons_ite, lookup_filter_ne]
  split <;> rfl

theorem document?_changeDocument (u text : String) :
    (s.changeDocument u text).document? url =
      if u = url then (s.document? url).map fun _ => ⟨text⟩ else s.document? url :=
  lookup_map_ite url s.documents u ⟨text⟩

theorem document?_closeDocument (u : String) :
    (s.closeDocument u).document? url = if u = url then none else s.document? url :=
  lookup_filter_ne url s.documents u

/-- Of several changes at once the last one counts. -/
theorem document?_changeDocuments (u : String) (texts : List String) :
    (texts.foldl (fun s text => s.changeDocument u text) s).document? url =
      if u = url then (s.document? url).map fun d => ⟨texts.getLastD d.text⟩
      else s.document? url := by
  induction texts generalizing s with
  | nil => simp
  | cons text texts ih =>
    rw [List.foldl_cons, ih, document?_changeDocument]
    by_cases h : u = url
    · simp only [if_pos h, Option.map_map, Function.comp_def, List.getLastD_cons]
    · simp only [if_neg h]

theorem next_document? (e : Event) :
    (s.next files e).document? url = e.nextDocument url (s.document? url) := by
  cases e with
  | asked r =>
    cases r with
    | startUp options => cases options <;> rfl
    | execute command arguments =>
      rw [next]
      split <;> rfl
    | _ => rfl
  | told n =>
    cases n with
    | opened u text => exact s.document?_openDocument url u text
    | changed u texts => exact s.document?_changeDocuments url u texts
    | closed u => exact s.document?_closeDocument url u
    | _ => rfl

theorem run_document? (launch : Launcher) (h : List Moment) :
    (s.run launch h).document? url =
      (h.map (·.event)).foldl (Event.nextDocument url) (s.document? url) := by
  induction h generalizing s with
  | nil => rfl
  | cons m h ih => rw [run_cons, ih, next_document?, List.map_cons, List.foldl_cons]

end Server

/-! ### The history of one document -/

variable {url : String}

theorem nextDocument_some {e : Event} (h : e ≠ .told (.closed url)) (text : String) :
    e.nextDocument url (some ⟨text⟩) = some ⟨(e.texts url).getLastD text⟩ := by
  cases e with
  | asked r => rfl
  | told n =>
    cases n with
    | opened u t =>
      rw [Event.nextDocument, Event.texts]
      split <;> rfl
    | changed u ts =>
      rw [Event.nextDocument, Event.texts]
      split <;> rfl
    | closed u =>
      have hu : u ≠ url := fun hu => h (hu ▸ rfl)
      rw [Event.nextDocument, if_neg hu]
      rfl
    | _ => rfl

theorem nextDocument_none {e : Event} (h : ∀ first, e ≠ .told (.opened url first)) :
    e.nextDocument url none = none := by
  cases e with
  | asked r => rfl
  | told n =>
    cases n with
    | opened u t =>
      have hu : u ≠ url := fun hu => h t (hu ▸ rfl)
      rw [Event.nextDocument, if_neg hu]
    | changed u ts => exact ite_self none
    | closed u => exact ite_self none
    | _ => rfl

theorem nextDocument_of_not_about {e : Event} (h : ¬ e.About url) (d : Option Document) :
    e.nextDocument url d = d := by
  cases e with
  | asked r => rfl
  | told n =>
    cases n with
    | opened | changed | closed => exact if_neg h
    | _ => rfl

theorem getLastD_append {α : Type} (xs ys : List α) (a : α) :
    (xs ++ ys).getLastD a = ys.getLastD (xs.getLastD a) := by
  induction xs generalizing a with
  | nil => rfl
  | cons x xs ih => rw [List.cons_append, List.getLastD_cons, List.getLastD_cons, ih]

theorem foldl_nextDocument_some {es : List Event} (h : .told (.closed url) ∉ es) (text : String) :
    es.foldl (Event.nextDocument url) (some ⟨text⟩) =
      some ⟨(es.flatMap (·.texts url)).getLastD text⟩ := by
  induction es generalizing text with
  | nil => rfl
  | cons e es ih =>
    obtain ⟨he, hes⟩ := not_or.mp (mt List.mem_cons.mpr h)
    rw [List.foldl_cons, nextDocument_some (Ne.symm he), ih hes, List.flatMap_cons,
      getLastD_append]

theorem foldl_of_hasText {es : List Event} {text : String} (h : HasText url es text) :
    es.foldl (Event.nextDocument url) none = some ⟨text⟩ := by
  cases h with
  | @given before first after hafter =>
    have hopen (d : Option Document) :
        (Event.told (.opened url first)).nextDocument url d = some ⟨first⟩ := if_pos rfl
    rw [List.foldl_append, List.foldl_cons, hopen, foldl_nextDocument_some hafter]

theorem HasText.append {es : List Event} {e : Event} {text : String} (h : HasText url es text)
    (he : e ≠ .told (.closed url)) :
    HasText url (es ++ [e]) ((e.texts url).getLastD text) := by
  cases h with
  | @given before first after hafter =>
    have hafter' : .told (.closed url) ∉ after ++ [e] := by
      simpa [hafter] using Ne.symm he
    have hgiven : HasText url (before ++ .told (.opened url first) :: (after ++ [e])) _ :=
      .given hafter'
    rwa [List.flatMap_append, getLastD_append, List.flatMap_singleton, ← List.cons_append,
      ← List.append_assoc] at hgiven

theorem hasText_iff {es : List Event} {text : String} :
    HasText url es text ↔ es.foldl (Event.nextDocument url) none = some ⟨text⟩ := by
  refine ⟨foldl_of_hasText, fun h => ?_⟩
  induction es using List.reverseRecOn generalizing text with
  | nil => cases h
  | append_singleton es e ih =>
    rw [List.foldl_append, List.foldl_cons, List.foldl_nil] at h
    have hclosed : e ≠ .told (.closed url) := by
      rintro rfl
      rw [Event.nextDocument, if_pos rfl] at h
      cases h
    cases hes : es.foldl (Event.nextDocument url) none with
    | some d =>
      rw [hes, nextDocument_some hclosed] at h
      obtain rfl := Document.mk.inj (Option.some.inj h)
      exact (ih hes).append hclosed
    | none =>
      -- a document that was not open is opened now
      rw [hes] at h
      have hopened : ∃ first, e = .told (.opened url first) := by
        by_contra hno
        rw [nextDocument_none (not_exists.mp hno)] at h
        cases h
      obtain ⟨first, rfl⟩ := hopened
      rw [Event.nextDocument, if_pos rfl] at h
      obtain rfl := Document.mk.inj (Option.some.inj h)
      exact .given List.not_mem_nil

/-! ### Whole histories -/

section

variable (launch : Launcher) (paths : DataPaths) (debug : Bool)

theorem hasText_iff_document? {h : List Moment} {text : String} :
    HasText url (h.map (·.event)) text ↔
      ((Server.start paths debug).run launch h).document? url = some ⟨text⟩ := by
  rw [Server.run_document?]
  exact hasText_iff

theorem document?_of_not_hasText {h : List Moment}
    (hclosed : ¬ ∃ text, HasText url (h.map (·.event)) text) :
    ((Server.start paths debug).run launch h).document? url = none := by
  refine Option.eq_none_iff_forall_ne_some.mpr fun d hd => hclosed ⟨d.text, ?_⟩
  exact (hasText_iff_document? launch paths debug).mpr hd

/-- **Hovers and completions are answered from the last text that a document was given.**  Where
it is not open there is nothing to hover over, and what is completed is the empty prefix.  Changes
do not open a document, the last of several counts, and what is not about a document leaves it as
it is. -/
theorem documents_last_given (h : List Moment) (url : String) :
    let s := (Server.start paths debug).run launch h
    (∀ t : Turn, t.server = s → ∀ p,
      (∀ text, HasText url (h.map (·.event)) text →
        (t.answer launch (.hover url p)).2 =
          .ok (hoverAnswer (some ⟨text⟩) s.store.current p) ∧
        (t.answer launch (.completion url p)).2 =
          .ok (completionAnswer (some ⟨text⟩) s.store.current p s.configuration.matchCase)) ∧
      ((¬ ∃ text, HasText url (h.map (·.event)) text) →
        (t.answer launch (.hover url p)).2 = .ok .null ∧
        (t.answer launch (.completion url p)).2 =
          .ok (.array ((s.store.current.complete "" s.configuration.matchCase).map
            Candidate.toJson)))) ∧
    (∀ files texts, (s.after launch ⟨files, .told (.changed url texts)⟩).document? url =
      (s.document? url).map fun d => ⟨texts.getLastD d.text⟩) ∧
    ∀ m : Moment, ¬ m.event.About url → (s.after launch m).document? url = s.document? url := by
  intro s
  refine ⟨fun t hserver p => ?_, fun files texts => ?_, fun m hm => ?_⟩
  · rw [t.answer_hover, t.answer_completion, hserver]
    constructor
    · intro text htext
      rw [(hasText_iff_document? launch paths debug).mp htext]
      exact ⟨rfl, rfl⟩
    · intro hclosed
      rw [document?_of_not_hasText launch paths debug hclosed]
      exact ⟨rfl, rfl⟩
  · rw [Server.after_eq, Server.next_document?]
    exact if_pos rfl
  · rw [Server.after_eq, Server.next_document?, nextDocument_of_not_about hm]

end

/-- A document is closed, changed meanwhile and opened again; another one is never opened. -/
def reopening : List Event := [
  .told (.opened "a.sage" "sin"), .told (.closed "a.sage"), .told (.changed "a.sage" ["cos"]),
  .told (.opened "a.sage" "tan"), .told (.changed "b.sage" ["cot"]),
  .told (.changed "a.sage" ["sec", "csc"]), .told (.changed "a.sage" [])]

def reopeningHistory : List Moment := reopening.map (⟨⟨[], [], none, false, false⟩, ·⟩)

theorem documents_last_given_reopened :
    let launch : Launcher := fun _ _ _ => .error .notFound
    let s := (Server.start .none false).run launch reopeningHistory
    let t : Turn := ⟨⟨[], [], none, false, false⟩, s, []⟩
    (t.answer launch (.hover "a.sage" ⟨0, 0⟩)).2 =
      .ok (hoverAnswer (some ⟨"csc"⟩) s.store.current ⟨0, 0⟩) ∧
    (t.answer launch (.hover "b.sage" ⟨0, 0⟩)).2 = .ok .null := by
  intro launch s t
  have hopen : HasText "a.sage" (reopening.take 3 ++ reopening[3] :: reopening.drop 4) "csc" :=
    .given (by simp [reopening])
  have hclosed : ¬ ∃ text, HasText "b.sage" reopening text := by
    rintro ⟨text, htext⟩
    simp [hasText_iff, reopening, Event.nextDocument] at htext
  obtain ⟨hanswers, -⟩ := documents_last_given launch .none false reopeningHistory "a.sage"
  obtain ⟨hanswers', -⟩ := documents_last_given launch .none false reopeningHistory "b.sage"
  exact ⟨((hanswers t rfl ⟨0, 0⟩).1 "csc" hopen).1, ((hanswers' t rfl ⟨0, 0⟩).2 hclosed).1⟩

end SageEditor
