/-
The entry for Sage files as an overlay on a settings document.

* `Overlays` — a document is another one with the entry of a mode in its table of commands, and
  nothing else in it is different;
* `overlays_setExecutor`, `Overlays.eq` — setting the entry makes such a document, and for a
  document in order there is no other one;
* `setExecutor_last` — of several modes that are set the last one counts, and a server sets the
  entry in a table as it is set in a document.

Design notes: what a document or a table holds is told by what is found under each name, where
nothing is found in a value that is no object.  So a document that is no object and a table that is
missing or no object need no cases of their own.
-/
import Mathlib.Logic.Basic
import SageEditor.Proofs.Settings.Update
import SageEditor.Server.Command

namespace SageEditor

variable {v w : Json} {mode : ExecutionMode}

namespace Json

theorem get?_membersOf (v : Json) (name : String) : v.membersOf.get? name = v.member? name := by
  cases v <;> rfl

/-- The members of a table that may be missing. -/
theorem get?_table (table : Option Json) (name : String) :
    ((table.map membersOf).getD []).get? name = table.bind (·.member? name) := by
  cases table with
  | none => rfl
  | some t => exact get?_membersOf t name

end Json

/-- A document is another one with the entry of a mode in its table of commands.  All other members
of the document and all other entries of the table are the same. -/
structure Overlays (v : Json) (mode : ExecutionMode) (w : Json) : Prop where
  isObject : ∃ root, w = .object root
  others : ∀ name, name ≠ executorMapKey → w.member? name = v.member? name
  table : ∃ entries : Json.Object, w.member? executorMapKey = some (.object entries) ∧
    entries.get? executorEntry = some (.string (executorCommand mode)) ∧
    ∀ name, name ≠ executorEntry →
      entries.get? name = (v.member? executorMapKey).bind (·.member? name)

/-- What is found in a table of commands once the entry is set in it. -/
theorem get?_executorMap (table : Option Json) (mode : ExecutionMode) (name : String) :
    (executorMap table mode).get? name =
      if name = executorEntry then some (.string (executorCommand mode))
      else table.bind (·.member? name) := by
  rw [executorMap, Json.Object.get?_insert, Json.get?_table]

/-- What is found in a document once the entry is set in it. -/
theorem member?_setExecutor (v : Json) (mode : ExecutionMode) (name : String) :
    (setExecutor v mode).member? name =
      if name = executorMapKey then some (.object (executorMap (v.member? executorMapKey) mode))
      else v.member? name := by
  rw [setExecutor, Json.member?, Json.Object.get?_insert, Json.get?_membersOf, Json.get?_membersOf]

theorem overlays_setExecutor (v : Json) (mode : ExecutionMode) :
    Overlays v mode (setExecutor v mode) where
  isObject := ⟨_, rfl⟩
  others name hname := by rw [member?_setExecutor, if_neg hname]
  table := by
    refine ⟨executorMap (v.member? executorMapKey) mode, ?_, ?_, fun name hname => ?_⟩
    · rw [member?_setExecutor, if_pos rfl]
    · rw [get?_executorMap, if_pos rfl]
    · rw [get?_executorMap, if_neg hname]

/-- Two documents in order that are the same one with the entry of a mode are the same. -/
theorem Overlays.eq {w' : Json} (h : Overlays v mode w) (h' : Overlays v mode w')
    (hw : w.InOrder) (hw' : w'.InOrder) : w = w' := by
  obtain ⟨⟨root, rfl⟩, hothers, entries, htable, hentry, hrest⟩ := h
  obtain ⟨⟨root', rfl⟩, hothers', entries', htable', hentry', hrest'⟩ := h'
  have hsame : entries = entries' := by
    have hinner : ∀ {root : Json.Object} {entries : Json.Object}, (Json.object root).InOrder →
        (Json.object root).member? executorMapKey = some (.object entries) → entries.Ordered :=
      fun hroot hget => (hroot.members.2 _ (Json.Object.mem_of_get? hget)).members.1
    refine Json.Object.ext_of_ordered (hinner hw htable) (hinner hw' htable') fun name => ?_
    by_cases hname : name = executorEntry
    · rw [hname, hentry, hentry']
    · rw [hrest name hname, hrest' name hname]
  refine congrArg Json.object (Json.Object.ext_of_ordered hw.members.1 hw'.members.1 fun name => ?_)
  by_cases hname : name = executorMapKey
  · rw [hname]
    exact htable.trans (hsame ▸ htable'.symm)
  · exact (hothers name hname).trans (hothers' name hname).symm

/-- Setting one mode after the other leaves what setting the last one alone does. -/
theorem foldl_setExecutor (v : Json) (modes : List ExecutionMode) (mode : ExecutionMode) :
    (modes ++ [mode]).foldl setExecutor v = setExecutor v mode := by
  induction modes generalizing v with
  | nil => rfl
  | cons first modes ih => rw [List.cons_append, List.foldl_cons, ih, setExecutor_setExecutor]

/-- **The entry for Sage files is an overlay whose last writer wins.**  Setting any modes one after
the other makes the document that setting the last one makes at once.  It holds what the document
held, but for the entry of that mode in the table of commands, and among the documents in order it
is the only one that does.  A server that is given a table sets the entry in it as it is set in a
document with that table. -/
theorem setExecutor_last (v : Json) (modes : List ExecutionMode) (mode : ExecutionMode) :
    (modes ++ [mode]).foldl setExecutor v = setExecutor v mode ∧
    Overlays v mode (setExecutor v mode) ∧
    (v.InOrder → ∀ w : Json, w.InOrder ∧ Overlays v mode w ↔ w = setExecutor v mode) ∧
    ∀ (table : Json) (arguments : List Json) (c : Configuration),
      some (executorMapValue (table :: arguments) c) =
        (setExecutor (.object [(executorMapKey, table)]) c.executionMode).member? executorMapKey := by
  refine ⟨foldl_setExecutor v modes mode, overlays_setExecutor v mode, fun hv w => ?_,
    fun table arguments c => ?_⟩
  · have horder : (setExecutor v mode).InOrder := holds_setExecutor hv mode
    constructor
    · rintro ⟨hw, hoverlays⟩
      exact hoverlays.eq (overlays_setExecutor v mode) hw horder
    · rintro rfl
      exact ⟨horder, overlays_setExecutor v mode⟩
  · rw [member?_setExecutor, if_pos rfl, Json.member?, Json.Object.get?, if_pos rfl]
    rfl

/-- A list is replaced by an object, and a table that is no object by one with the entry alone. -/
theorem setExecutor_last_replaced :
    (∀ w : Json, w.InOrder ∧ Overlays (.array [.null]) .runOnly w ↔ w = .object
      [(executorMapKey, .object [(executorEntry, .string "sage $fullFileName")])]) ∧
    ∀ w : Json, w.InOrder ∧ Overlays
      (.object [("a", .null), (executorMapKey, .string "none"), ("z", .bool true)]) .runOnly w ↔
        w = .object [("a", .null),
          (executorMapKey, .object [(executorEntry, .string "sage $fullFileName")]),
          ("z", .bool true)] := by
  have hlist : Json.InOrder (.array [.null]) := .array (by simp [Json.Holds.null])
  have hmembers : Json.InOrder
      (.object [("a", .null), (executorMapKey, .string "none"), ("z", .bool true)]) := by
    have hnames : Json.Object.Ordered
        [("a", .null), (executorMapKey, .string "none"), ("z", .bool true)] := by
      simp only [Json.Object.Ordered, List.pairwise_cons]
      decide +kernel
    refine .object hnames ?_
    simp [Json.Holds.null, Json.Holds.string, Json.Holds.bool]
  exact ⟨(setExecutor_last _ [.runAndClean] .runOnly).2.2.1 hlist,
    (setExecutor_last _ [] .runOnly).2.2.1 hmembers⟩

end SageEditor
