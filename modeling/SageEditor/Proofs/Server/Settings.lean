/-
The settings in force after any settings that clients have sent.

* `Setting` — the settings by name, with what each is in force as;
* `Setting.Sets` — a payload is understood as a whole and has a value for a setting;
* `exists_decode_iff` — the payloads that are understood are the well-typed ones;
* `settings_last_set` — the last payload that sets a setting determines it.

Design notes: of a payload only two facts matter, whether all of its settings are well-typed and
which values it has.  Both are said without the decoder, and `sent_ofJson_iff` is the one
place where the two meet; what holds of sequences of payloads follows from it for each setting by
itself.
-/
import SageEditor.Proofs.Json.Object
import SageEditor.Server.Configuration

namespace SageEditor

/-- The settings that a client can send. -/
inductive Setting where
  | symbolsPath
  | keywordsPath
  | interpreter
  | executionMode
  | caseInsensitiveCompletion
deriving DecidableEq, Repr

namespace Setting

/-- All settings, in their order in a list. -/
def all : List Setting :=
  [symbolsPath, keywordsPath, interpreter, executionMode, caseInsensitiveCompletion]

def name : Setting → String
  | symbolsPath => "symbolsPath"
  | keywordsPath => "keywordsPath"
  | interpreter => "interpreter"
  | executionMode => "executionMode"
  | caseInsensitiveCompletion => "caseInsensitiveCompletion"

/-- What a setting is in force as. -/
abbrev Value : Setting → Type
  | symbolsPath | keywordsPath => Option Path
  | interpreter => String
  | executionMode => ExecutionMode
  | caseInsensitiveCompletion => MatchCase

/-- The value in force. -/
def inForce (c : Configuration) : (f : Setting) → f.Value
  | symbolsPath => c.paths.symbols
  | keywordsPath => c.paths.keywords
  | interpreter => c.interpreter
  | executionMode => c.executionMode
  | caseInsensitiveCompletion => c.matchCase

/-- The value that a JSON value stands for. -/
def read : (f : Setting) → Json → Option f.Value
  | symbolsPath, .string s | keywordsPath, .string s => some (some (Path.ofString s))
  | interpreter, .string s => some s
  | executionMode, .string s => some (if s = "runAndClean" then .runAndClean else .runOnly)
  | caseInsensitiveCompletion, .bool b => some (if b then .insensitive else .sensitive)
  | _, _ => none

/-- Whether a JSON value may be given for a setting. -/
def Admits (f : Setting) (w : Json) : Prop := w = .null ∨ ∃ x, f.read w = some x

/-- The part of a payload that has the settings: one member of it, if that is there. -/
def body (v : Json) : Json := (v.member? "sagemath").getD v

/-- The settings of a payload by their names; the items of a list are named in order. -/
def members? (v : Json) : Option Json.Object :=
  match body v with
  | .object members => some members
  | .array items => if items.length ≤ all.length then some ((all.map name).zip items) else none
  | _ => none

/-- The value that a payload has for a setting. -/
def held? (f : Setting) (v : Json) : Option Json :=
  (members? v).bind fun members => members.get? f.name

/-- Whether all settings of a payload are well-typed. -/
def WellTyped (v : Json) : Prop :=
  ∃ members, members? v = some members ∧ ∀ f w, (name f, w) ∈ members → Admits f w

/-- A payload is understood as a whole and sets a setting to a value. -/
def Sets (v : Json) (f : Setting) (x : f.Value) : Prop :=
  WellTyped v ∧ ∃ w, f.held? v = some w ∧ f.read w = some x

/-! ### Settings as records -/

/-- What a client has sent for a setting, as it would be in force. -/
def sent (s : ClientSettings) : (f : Setting) → Option f.Value
  | symbolsPath => s.symbolsPath.map some
  | keywordsPath => s.keywordsPath.map some
  | interpreter => s.interpreter
  | executionMode => s.executionMode.map fun mode => .ofSetting (some mode)
  | caseInsensitiveCompletion =>
    s.caseInsensitiveCompletion.map fun b => if b then .insensitive else .sensitive

theorem inForce_apply (c : Configuration) (s : ClientSettings) (f : Setting) :
    inForce (c.apply s) f = (sent s f).getD (inForce c f) := by
  obtain ⟨symbols, keywords, interpreter, executionMode, insensitive⟩ := s
  cases f with
  | symbolsPath => cases symbols <;> rfl
  | keywordsPath => cases keywords <;> rfl
  | interpreter => rfl
  | executionMode => rfl
  | caseInsensitiveCompletion => rfl

theorem eq_of_inForce {c d : Configuration} (h : ∀ f, inForce c f = inForce d f) : c = d := by
  obtain ⟨⟨symbols, keywords⟩, interpreter, executionMode, matchCase⟩ := c
  obtain ⟨⟨symbols', keywords'⟩, interpreter', executionMode', matchCase'⟩ := d
  obtain rfl : symbols = symbols' := h .symbolsPath
  obtain rfl : keywords = keywords' := h .keywordsPath
  obtain rfl : interpreter = interpreter' := h .interpreter
  obtain rfl : executionMode = executionMode' := h .executionMode
  obtain rfl : matchCase = matchCase' := h .caseInsensitiveCompletion
  rfl

/-! ### Reading payloads -/

theorem name_injective : Function.Injective name := by
  intro f g h
  cases f <;> cases g <;> first | rfl | simp [name] at h

open Json.Decode in
/-- The shape of a setting as a field of a record. -/
def field : Setting → Json.Decode.Field
  | symbolsPath => defaulted "symbolsPath" ClientSettings.path
  | keywordsPath => defaulted "keywordsPath" ClientSettings.path
  | interpreter => defaulted "interpreter" text
  | executionMode => defaulted "executionMode" text
  | caseInsensitiveCompletion => defaulted "caseInsensitiveCompletion" flag

theorem field_name (f : Setting) : f.field.name = f.name := by cases f <;> rfl

theorem field_presence (f : Setting) : f.field.presence = .defaulted := by cases f <;> rfl

theorem path_eq_ok_iff {v : Json} {p : Path} :
    ClientSettings.path v = .ok p ↔ ∃ s, v = .string s ∧ p = .ofString s := by
  cases v <;> simp [ClientSettings.path, Json.Decode.differs, eq_comm]

theorem field_check_iff {f : Setting} {w : Json} : f.field.check w = .ok () ↔ f.Admits w := by
  cases f <;>
    refine Json.Decode.check_option_eq_ok_iff.trans (or_congr_right ?_) <;>
    cases w <;> simp [read, path_eq_ok_iff, Json.Decode.text_eq_ok_iff, Json.Decode.flag_eq_ok_iff]

theorem find?_field (f : Setting) :
    (all.map field).find? (·.name = f.name) = some f.field := by
  cases f <;> rfl

theorem exists_of_find?_field {n : String} {r : Json.Decode.Field}
    (h : (all.map field).find? (·.name = n) = some r) : ∃ f : Setting, r = f.field ∧ n = f.name := by
  obtain ⟨f, -, rfl⟩ := List.mem_map.mp (List.mem_of_find?_eq_some h)
  have hname : f.field.name = n := by simpa using List.find?_some h
  exact ⟨f, rfl, hname ▸ f.field_name⟩

theorem mem_zip_names {f : Setting} {w : Json} {items : List Json} :
    (f.name, w) ∈ (all.map name).zip items ↔ (f, w) ∈ all.zip items := by
  rw [List.zip_map_left, List.mem_map]
  constructor
  · rintro ⟨⟨g, w'⟩, hmem, heq⟩
    obtain ⟨hname, rfl⟩ := Prod.mk.inj heq
    exact name_injective hname ▸ hmem
  · exact fun hmem => ⟨(f, w), hmem, rfl⟩

/-- A record is read of the payloads whose settings are all well-typed. -/
theorem record_eq_ok_iff {v : Json} {members : Json.Object} :
    Json.Decode.record "ClientSettings" (all.map field) (body v) = .ok members ↔
      members? v = some members ∧ ∀ f w, (name f, w) ∈ members → Admits f w := by
  rw [members?]
  cases body v with
  | object ms =>
    rw [Json.Decode.record_object_eq_ok_iff, Option.some.injEq]
    constructor
    · rintro ⟨hchecks, -, rfl⟩
      exact ⟨rfl, fun f w hw => field_check_iff.mp (hchecks _ hw _ (find?_field f))⟩
    · rintro ⟨rfl, hadmits⟩
      refine ⟨fun ⟨n, w⟩ hw r hr => ?_, by simp [field_presence], rfl⟩
      obtain ⟨f, rfl, rfl⟩ := exists_of_find?_field hr
      exact field_check_iff.mpr (hadmits f w hw)
  | array items =>
    have hnames : (all.map field).map (·.name) = all.map name := rfl
    rw [Json.Decode.record_array_eq_ok_iff (by simp [field_presence]), hnames, List.length_map]
    constructor
    · rintro ⟨hlength, hchecks, rfl⟩
      refine ⟨if_pos hlength, fun f w hw => field_check_iff.mp (hchecks (f.field, w) ?_)⟩
      rw [List.zip_map_left]
      exact List.mem_map_of_mem (mem_zip_names.mp hw)
    · rintro ⟨hsome, hadmits⟩
      obtain ⟨hlength, hzip⟩ := Option.ite_none_right_eq_some.mp hsome
      obtain rfl := Option.some.inj hzip
      refine ⟨hlength, ?_, rfl⟩
      rw [List.zip_map_left, List.forall_mem_map]
      exact fun ⟨f, w⟩ hw => field_check_iff.mpr (hadmits f w (mem_zip_names.mpr hw))
  | _ => simp [Json.Decode.record, Json.Decode.recordIn, Json.Decode.differs]

theorem decode_eq_ok_iff {v : Json} {s : ClientSettings} :
    ClientSettings.decode v = .ok s ↔
      ∃ members, Json.Decode.record "ClientSettings" (all.map field) v = .ok members ∧
        Json.Decode.field? members "symbolsPath" ClientSettings.path = .ok s.symbolsPath ∧
        Json.Decode.field? members "keywordsPath" ClientSettings.path = .ok s.keywordsPath ∧
        Json.Decode.field? members "interpreter" Json.Decode.text = .ok s.interpreter ∧
        Json.Decode.field? members "executionMode" Json.Decode.text = .ok s.executionMode ∧
        Json.Decode.field? members "caseInsensitiveCompletion" Json.Decode.flag =
          .ok s.caseInsensitiveCompletion := by
  simp only [ClientSettings.decode, Json.bind_eq_ok, pure, Except.pure, Except.ok.injEq]
  constructor
  · rintro ⟨members, hrecord, _, h1, _, h2, _, h3, _, h4, _, h5, rfl⟩
    exact ⟨members, hrecord, h1, h2, h3, h4, h5⟩
  · rintro ⟨members, hrecord, h1, h2, h3, h4, h5⟩
    exact ⟨members, hrecord, _, h1, _, h2, _, h3, _, h4, _, h5, rfl⟩

/-- The payloads that are understood as a whole are the well-typed ones. -/
theorem exists_decode_iff {v : Json} :
    (∃ s, ClientSettings.decode (body v) = .ok s) ↔ WellTyped v := by
  constructor
  · rintro ⟨s, hs⟩
    obtain ⟨members, hrecord, -⟩ := decode_eq_ok_iff.mp hs
    exact ⟨members, record_eq_ok_iff.mp hrecord⟩
  · rintro ⟨members, hmembers, hadmits⟩
    have hcheck : ∀ f w, (name f, w) ∈ members → f.field.check w = .ok () :=
      fun f w hw => field_check_iff.mpr (hadmits f w hw)
    obtain ⟨symbols, h1⟩ := Json.Decode.exists_field? (hcheck .symbolsPath)
    obtain ⟨keywords, h2⟩ := Json.Decode.exists_field? (hcheck .keywordsPath)
    obtain ⟨interpreter, h3⟩ := Json.Decode.exists_field? (hcheck .interpreter)
    obtain ⟨mode, h4⟩ := Json.Decode.exists_field? (hcheck .executionMode)
    obtain ⟨insensitive, h5⟩ := Json.Decode.exists_field? (hcheck .caseInsensitiveCompletion)
    exact ⟨⟨symbols, keywords, interpreter, mode, insensitive⟩, decode_eq_ok_iff.mpr
      ⟨members, record_eq_ok_iff.mpr ⟨hmembers, hadmits⟩, h1, h2, h3, h4, h5⟩⟩

/-- What is read of a payload that is understood. -/
theorem sent_of_decode {v : Json} {s : ClientSettings}
    (h : ClientSettings.decode (body v) = .ok s) (f : Setting) :
    sent s f = (f.held? v).bind f.read := by
  obtain ⟨members, hrecord, h1, h2, h3, h4, h5⟩ := decode_eq_ok_iff.mp h
  obtain ⟨hmembers, -⟩ := record_eq_ok_iff.mp hrecord
  rw [held?, hmembers, Option.bind_some]
  cases f with
  | symbolsPath =>
    refine Json.Decode.map_of_field? (fun w p hp => ?_) rfl h1
    obtain ⟨t, rfl, rfl⟩ := path_eq_ok_iff.mp hp
    rfl
  | keywordsPath =>
    refine Json.Decode.map_of_field? (fun w p hp => ?_) rfl h2
    obtain ⟨t, rfl, rfl⟩ := path_eq_ok_iff.mp hp
    rfl
  | interpreter =>
    refine Option.map_id'.symm.trans (Json.Decode.map_of_field? (fun w t ht => ?_) rfl h3)
    rw [Json.Decode.text_eq_ok_iff.mp ht, read]
  | executionMode =>
    refine Json.Decode.map_of_field? (fun w t ht => ?_) rfl h4
    rw [Json.Decode.text_eq_ok_iff.mp ht, read, ExecutionMode.ofSetting]
    simp only [Option.some.injEq]
  | caseInsensitiveCompletion =>
    refine Json.Decode.map_of_field? (fun w b hb => ?_) rfl h5
    rw [Json.Decode.flag_eq_ok_iff.mp hb, read]

/-- What a client has sent by a payload, well-typed or not. -/
theorem sent_ofJson_iff {v : Json} {f : Setting} {x : f.Value} :
    sent (.ofJson v) f = some x ↔ Sets v f x := by
  have hbody : (v.member? ClientSettings.sectionName).getD v = body v := rfl
  rw [ClientSettings.ofJson, hbody, Sets, ← exists_decode_iff]
  cases hdecode : ClientSettings.decode (body v) with
  | ok s => simp [sent_of_decode hdecode, Option.bind_eq_some_iff]
  | error e => cases f <;> simp [sent, ClientSettings.none]

theorem inForce_of_sets {c : Configuration} {v : Json} {f : Setting} {x : f.Value}
    (h : Sets v f x) : inForce (c.apply (.ofJson v)) f = x := by
  rw [inForce_apply, sent_ofJson_iff.mpr h, Option.getD_some]

theorem inForce_of_not_sets {c : Configuration} {v : Json} {f : Setting}
    (h : ∀ x, ¬ Sets v f x) : inForce (c.apply (.ofJson v)) f = inForce c f := by
  have hnone : sent (.ofJson v) f = none :=
    Option.eq_none_iff_forall_ne_some.mpr fun x hx => h x (sent_ofJson_iff.mp hx)
  rw [inForce_apply, hnone, Option.getD_none]

/-! ### Payloads one after the other -/

theorem read_null (f : Setting) : f.read .null = none := by cases f <;> rfl

theorem read_executionMode_iff {w : Json} :
    read .executionMode w = some .runAndClean ↔ w = .string "runAndClean" := by
  cases w <;> simp [read]

theorem not_wellTyped {v : Json} {f : Setting} {w : Json} (h : f.held? v = some w)
    (hw : ¬ f.Admits w) : ¬ WellTyped v := by
  rintro ⟨members, hmembers, hadmits⟩
  rw [held?, hmembers, Option.bind_some] at h
  exact hw (hadmits f w (Json.Object.mem_of_get? h))

/-- A setting is set by the payloads that are understood and have a value for it. -/
theorem exists_sets_iff {v : Json} {f : Setting} :
    (∃ x, Sets v f x) ↔ WellTyped v ∧ ∃ w, f.held? v = some w ∧ w ≠ .null := by
  constructor
  · rintro ⟨x, hv, w, hw, hx⟩
    refine ⟨hv, w, hw, ?_⟩
    rintro rfl
    rw [read_null] at hx
    cases hx
  · rintro ⟨hv, w, hw, hnull⟩
    have hadmits : f.Admits w := not_not.mp fun hno => not_wellTyped hw hno hv
    obtain ⟨x, hx⟩ := hadmits.resolve_left hnull
    exact ⟨x, hv, w, hw, hx⟩

theorem apply_of_not_wellTyped {v : Json} (h : ¬ WellTyped v) (c : Configuration) :
    c.apply (.ofJson v) = c :=
  eq_of_inForce fun _ => inForce_of_not_sets fun _ hx => h hx.1

theorem apply_apply (c : Configuration) (v : Json) :
    (c.apply (.ofJson v)).apply (.ofJson v) = c.apply (.ofJson v) := by
  refine eq_of_inForce fun f => ?_
  by_cases h : ∃ x, Sets v f x
  · obtain ⟨x, hx⟩ := h
    rw [inForce_of_sets hx, inForce_of_sets hx]
  · exact inForce_of_not_sets (not_exists.mp h)

theorem apply_comm {u v : Json} (h : ∀ f x y, Sets u f x → ¬ Sets v f y) (c : Configuration) :
    (c.apply (.ofJson u)).apply (.ofJson v) = (c.apply (.ofJson v)).apply (.ofJson u) := by
  refine eq_of_inForce fun f => ?_
  by_cases hu : ∃ x, Sets u f x
  · obtain ⟨x, hx⟩ := hu
    rw [inForce_of_not_sets fun y => h f x y hx, inForce_of_sets hx, inForce_of_sets hx]
  · have hu' := not_exists.mp hu
    rw [inForce_of_not_sets (c := c.apply (.ofJson v)) hu']
    by_cases hv : ∃ y, Sets v f y
    · obtain ⟨y, hy⟩ := hv
      rw [inForce_of_sets hy, inForce_of_sets hy]
    · have hv' := not_exists.mp hv
      rw [inForce_of_not_sets hv', inForce_of_not_sets hu', inForce_of_not_sets hv']

end Setting

/-- The last item of several that have a property. -/
theorem exists_last {α : Type} {P : α → Prop} {xs : List α} (h : ∃ x ∈ xs, P x) :
    ∃ before x after, xs = before ++ x :: after ∧ P x ∧ ∀ y ∈ after, ¬ P y := by
  induction xs with
  | nil => simp at h
  | cons x xs ih =>
    by_cases hxs : ∃ y ∈ xs, P y
    · obtain ⟨before, y, after, rfl, hy, hafter⟩ := ih hxs
      exact ⟨x :: before, y, after, rfl, hy, hafter⟩
    · obtain ⟨y, hy, hPy⟩ := h
      rcases List.mem_cons.mp hy with rfl | hy
      · exact ⟨[], y, xs, rfl, hPy, fun z hz hPz => hxs ⟨z, hz, hPz⟩⟩
      · exact absurd ⟨y, hy, hPy⟩ hxs

namespace Configuration

open Setting

/-- The settings in force after payloads of a client, one after the other. -/
def afterAll (c : Configuration) (payloads : List Json) : Configuration :=
  payloads.foldl (fun c v => c.apply (.ofJson v)) c

theorem afterAll_cons (c : Configuration) (v : Json) (payloads : List Json) :
    c.afterAll (v :: payloads) = (c.apply (.ofJson v)).afterAll payloads := rfl

theorem afterAll_append (c : Configuration) (before after : List Json) :
    c.afterAll (before ++ after) = (c.afterAll before).afterAll after :=
  List.foldl_append

theorem inForce_afterAll_of_not_sets {f : Setting} {payloads : List Json}
    (h : ∀ u ∈ payloads, ∀ y, ¬ Sets u f y) (c : Configuration) :
    inForce (c.afterAll payloads) f = inForce c f := by
  induction payloads generalizing c with
  | nil => rfl
  | cons v payloads ih =>
    obtain ⟨hv, hpayloads⟩ := List.forall_mem_cons.mp h
    rw [afterAll_cons, ih hpayloads, inForce_of_not_sets hv]

theorem inForce_afterAll_of_sets {f : Setting} {before after : List Json} {v : Json} {x : f.Value}
    (hv : Sets v f x) (hafter : ∀ u ∈ after, ∀ y, ¬ Sets u f y) (c : Configuration) :
    inForce (c.afterAll (before ++ v :: after)) f = x := by
  rw [afterAll_append, afterAll_cons, inForce_afterAll_of_not_sets hafter, inForce_of_sets hv]

/-- Cleaning is in force exactly if the last mode that was set is the one that cleans. -/
theorem executionMode_afterAll_iff (paths : DataPaths) (payloads : List Json) :
    ((start paths).afterAll payloads).executionMode = .runAndClean ↔
      ∃ before v after, payloads = before ++ v :: after ∧ WellTyped v ∧
        held? .executionMode v = some (.string "runAndClean") ∧
        ∀ u ∈ after, ∀ y, ¬ Sets u .executionMode y := by
  constructor
  · intro hmode
    by_cases h : ∃ v ∈ payloads, ∃ x, Sets v .executionMode x
    · obtain ⟨before, v, after, rfl, ⟨x, hx⟩, hafter⟩ := exists_last h
      have hlast := fun u hu => not_exists.mp (hafter u hu)
      obtain rfl : x = .runAndClean :=
        (inForce_afterAll_of_sets hx hlast (start paths)).symm.trans hmode
      obtain ⟨hv, w, hw, hread⟩ := hx
      exact ⟨before, v, after, rfl, hv, read_executionMode_iff.mp hread ▸ hw, hlast⟩
    · have hnone : ∀ u ∈ payloads, ∀ y, ¬ Sets u .executionMode y :=
        fun u hu y hy => h ⟨u, hu, y, hy⟩
      have hstart := (inForce_afterAll_of_not_sets hnone (start paths)).symm.trans hmode
      cases hstart
  · rintro ⟨before, v, after, rfl, hv, hw, hlast⟩
    exact inForce_afterAll_of_sets ⟨hv, _, hw, read_executionMode_iff.mpr rfl⟩ hlast (start paths)

/-- **The last payload that sets a setting determines it.**  A setting that none sets is as at the
start, and files are cleaned up after exactly if the last mode set says so.  A payload sets the
settings for which it has a value, if it is understood as a whole, and otherwise none.  A payload
that is sent twice counts once, and payloads that set different settings may change places. -/
theorem settings_last_set (paths : DataPaths) (payloads : List Json) :
    (∀ f before v after x, payloads = before ++ v :: after → Sets v f x →
      (∀ u ∈ after, ∀ y, ¬ Sets u f y) → inForce ((start paths).afterAll payloads) f = x) ∧
    (∀ f, (∀ u ∈ payloads, ∀ y, ¬ Sets u f y) →
      inForce ((start paths).afterAll payloads) f = inForce (start paths) f) ∧
    (((start paths).afterAll payloads).executionMode = .runAndClean ↔
      ∃ before v after, payloads = before ++ v :: after ∧ WellTyped v ∧
        held? .executionMode v = some (.string "runAndClean") ∧
        ∀ u ∈ after, ∀ y, ¬ Sets u .executionMode y) ∧
    (∀ v f, (∃ x, Sets v f x) ↔
      (∃ s, ClientSettings.decode (body v) = .ok s) ∧ ∃ w, f.held? v = some w ∧ w ≠ .null) ∧
    (∀ before v after, payloads = before ++ v :: after →
      (¬ WellTyped v ∨ ∃ f w, held? f v = some w ∧ ¬ Admits f w) →
      (start paths).afterAll payloads = (start paths).afterAll (before ++ after)) ∧
    (∀ before v after, payloads = before ++ v :: after →
      (start paths).afterAll (before ++ v :: v :: after) = (start paths).afterAll payloads) ∧
    ∀ before u v after, payloads = before ++ u :: v :: after →
      (∀ f x y, Sets u f x → ¬ Sets v f y) →
      (start paths).afterAll (before ++ v :: u :: after) = (start paths).afterAll payloads := by
  refine ⟨?_, fun f h => inForce_afterAll_of_not_sets h _, executionMode_afterAll_iff paths payloads,
    fun v f => exists_sets_iff.trans (and_congr_left' exists_decode_iff.symm), ?_, ?_, ?_⟩
  · rintro f before v after x rfl hv hafter
    exact inForce_afterAll_of_sets hv hafter _
  · rintro before v after rfl hill
    have hv : ¬ WellTyped v := hill.elim id fun ⟨_, _, hheld, hw⟩ => not_wellTyped hheld hw
    rw [afterAll_append, afterAll_append, afterAll_cons, apply_of_not_wellTyped hv]
  · rintro before v after rfl
    simp only [afterAll_append, afterAll_cons, apply_apply]
  · rintro before u v after rfl hdisjoint
    simp only [afterAll_append, afterAll_cons, apply_comm hdisjoint]

/-- A mode in a section, a path in a list, and a payload with a number for the interpreter. -/
def threePayloads : List Json := [
  .object [("sagemath", .object [("executionMode", .string "runAndClean"), ("interpreter", .null)])],
  .array [.string "a.json"],
  .object [("executionMode", .string "runOnly"), ("interpreter", .number (.natural 42))]]

theorem settings_last_set_three :
    inForce ((start .none).afterAll threePayloads) .symbolsPath = some (.ofString "a.json") ∧
    inForce ((start .none).afterAll threePayloads) .interpreter = defaultInterpreter ∧
    inForce ((start .none).afterAll threePayloads) .executionMode = .runAndClean := by
  have hsection : members? threePayloads[0] =
      some [("executionMode", .string "runAndClean"), ("interpreter", .null)] := by
    simp [threePayloads, members?, body, Json.member?, Json.Object.get?]
  have hlist : members? threePayloads[1] = some [("symbolsPath", .string "a.json")] := by
    simp [threePayloads, members?, body, Json.member?, all, name]
  have hflat : members? threePayloads[2] =
      some [("executionMode", .string "runOnly"), ("interpreter", .number (.natural 42))] := by
    simp [threePayloads, members?, body, Json.member?, Json.Object.get?]
  have hmode : Sets threePayloads[0] .executionMode .runAndClean := by
    refine ⟨⟨_, hsection, fun f w hw => ?_⟩, .string "runAndClean", ?_, rfl⟩
    · cases f <;> simp_all [name, Admits, Setting.read]
    · simp [held?, hsection, name, Json.Object.get?]
  have hpath : Sets threePayloads[1] .symbolsPath (some (.ofString "a.json")) := by
    refine ⟨⟨_, hlist, fun f w hw => ?_⟩, .string "a.json", ?_, rfl⟩
    · cases f <;> simp_all [name, Admits, Setting.read]
    · simp [held?, hlist, name, Json.Object.get?]
  have hill : ∃ f w, held? f threePayloads[2] = some w ∧ ¬ Admits f w :=
    ⟨.interpreter, .number (.natural 42), by simp [held?, hflat, name, Json.Object.get?],
      by simp [Admits, Setting.read]⟩
  have hnone : ∀ (f : Setting) (y), ¬ Sets threePayloads[2] f y := by
    obtain ⟨f, w, hw, hno⟩ := hill
    exact fun g y hy => not_wellTyped hw hno hy.1
  have hfirst : ∀ y, ¬ Sets threePayloads[0] .interpreter y := by
    rintro y ⟨-, w, hw, hy⟩
    simp [held?, hsection, name, Json.Object.get?] at hw
    simp [← hw, Setting.read] at hy
  have hsecond : ∀ (f : Setting) (y), f ≠ .symbolsPath → ¬ Sets threePayloads[1] f y := by
    rintro f y hf ⟨-, w, hw, -⟩
    cases f <;> simp_all [held?, name, Json.Object.get?]
  obtain ⟨hlast, hstart, -⟩ := settings_last_set .none threePayloads
  refine ⟨hlast .symbolsPath [_] _ [_] _ rfl hpath ?_, hstart .interpreter ?_,
    hlast .executionMode [] _ [_, _] _ rfl hmode ?_⟩
  · exact List.forall_mem_singleton.mpr (hnone _)
  · exact List.forall_mem_cons.mpr ⟨hfirst, List.forall_mem_cons.mpr
      ⟨fun y => hsecond _ y (by decide), List.forall_mem_singleton.mpr (hnone _)⟩⟩
  · exact List.forall_mem_cons.mpr
      ⟨fun y => hsecond _ y (by decide), List.forall_mem_singleton.mpr (hnone _)⟩

end Configuration

end SageEditor
