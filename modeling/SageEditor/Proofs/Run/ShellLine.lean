/-
The line for a shell that a request shows.

* `RunRequest.calls` — what the run of a request starts and deletes, as calls of programs;
* `RunRequest.Starts` — a call that is all that the run of a request starts;
* `RunRequest.readsAs_shellLine_iff` — the first call is the one that the run starts, and the line
  is read as the calls exactly if the name of the interpreter needs no quotes, and the path is
  well-formed and keeps its characters in them.

Design notes: the line shows the path between double quotes and escapes nothing in it, and it shows
the interpreter as it is.
-/
import SageEditor.Proofs.Run.Byproduct
import SageEditor.Proofs.Run.Effect
import SageEditor.Proofs.Shell.Quoted

namespace SageEditor.RunRequest

open Shell
open Text Octets

/-- What a run starts, and what stands for the deletion of its by-product. -/
def calls (r : RunRequest) : List (List (List Char)) :=
  [ofString r.interpreter, ofBytes r.file.bytes] ::
    if r.clean then [[['r', 'm'], ['-', 'f'], ofBytes r.byproduct.bytes]] else []

/-- A run starts this call and no other: it fails to start exactly if the call does, and what
other calls lead to makes no difference to it. -/
def Starts (r : RunRequest) (call : List (List Char)) : Prop :=
  ∃ program argument, call = [ofBytes program, ofBytes argument] ∧
    (∀ (launch : Launcher) fs e, launch fs program argument = .error e ↔
      r.execute launch fs = (fs, .error (.spawn r.interpreter e))) ∧
    ∀ launch launch' : Launcher,
      (∀ fs, launch fs program argument = launch' fs program argument) →
        ∀ fs, r.execute launch fs = r.execute launch' fs

theorem starts_calls_head (r : RunRequest) : ∃ call ∈ r.calls.head?, r.Starts call := by
  refine ⟨_, rfl, Utf8.encode r.interpreter, r.file.bytes, rfl, fun launch fs e => ?_,
    fun launch launch' h fs => ?_⟩
  · simp [execute_eq_spawn_iff]
  · rw [execute, execute, h]

/-- What the line of a request has behind the quoted path. -/
def cleaning (r : RunRequest) : List Char :=
  if r.clean then
    ' ' :: '&' :: '&' :: ' ' :: 'r' :: 'm' :: ' ' :: '-' :: 'f' :: ' ' :: '"' ::
      (ofString r.byproduct.display ++ ['"'])
  else []

theorem ofString_shellLine (r : RunRequest) : ofString r.shellLine =
    ofString r.interpreter ++ ' ' :: '"' :: (ofString r.file.display ++ '"' :: r.cleaning) := by
  have hopen : ofString " \"" = [' ', '"'] := by decide +kernel
  have hclose : ofString "\"" = ['"'] := by decide +kernel
  have hrm : ofString " && rm -f \"" =
      [' ', '&', '&', ' ', 'r', 'm', ' ', '-', 'f', ' ', '"'] := by decide +kernel
  rw [shellLine, cleaning]
  split <;> simp [toString, hopen, hclose, hrm]

/-- What the line has behind the quoted path deletes the by-product. -/
theorem joins_cleaning {r : RunRequest}
    (hbyproduct : Surroundings.doubleQuotes.isInert (ofString r.byproduct.display) ['"'] = true) :
    ∃ calls, Joins r.cleaning calls ∧ calls.map (·.map ShellWord.text) =
      if r.clean then [[['r', 'm'], ['-', 'f'], ofString r.byproduct.display]] else [] := by
  rw [cleaning]
  split
  · have hrm : IsBareWord ['r', 'm'] := by decide +kernel
    have hf : IsBareWord ['-', 'f'] := by decide +kernel
    obtain ⟨w, hw, htext, hconstant⟩ := exists_quoted_word hbyproduct .finished
    obtain ⟨v, hv, hvjoined⟩ := hf.exists_literal ('"' :: (ofString r.byproduct.display ++ ['"']))
    obtain ⟨u, hu, hujoined⟩ :=
      hrm.exists_literal ('-' :: 'f' :: ' ' :: '"' :: (ofString r.byproduct.display ++ ['"']))
    refine ⟨[[u.joined, v.joined, w.joined]], .cons (.cons (hrm.startsWord_append _) hu
      (.cons (hf.startsWord_append _) hv (.cons rfl hw .nil))) ?_ .nil, ?_⟩
    · refine hrm.isCall hujoined fun x hx => ?_
      obtain rfl | rfl : x = v.joined ∨ x = w.joined := by simpa using hx
      · exact hvjoined ▸ hf.isConstant
      · exact hconstant
    · simp [hujoined, hvjoined, htext]
  · exact ⟨[], .nil, rfl⟩

/-- What stands behind the path and is joined to it begins with a blank and a sign. -/
theorem eq_of_cleaning {r : RunRequest} {cs ds : List Char} (h : r.cleaning = cs ++ ds)
    (hcs : substance cs = []) : cs = [] ∨ cs = [' '] := by
  rw [cleaning] at h
  split at h
  · match cs with
    | [] => exact .inl rfl
    | [c] =>
      exact .inr (by rw [← (List.cons.inj h).1])
    | c :: d :: cs =>
      obtain ⟨hd, -⟩ := List.cons.inj (List.cons.inj h).2
      rw [← hd] at hcs
      exact absurd (List.filter_eq_nil_iff.mp hcs '&' (by simp)) (by decide)
  · exact .inl (List.append_eq_nil_iff.mp h.symm).1

theorem ofString_display {p : Path} (h : Utf8.encode p.display = p.bytes) :
    ofString p.display = ofBytes p.bytes := by
  rw [ofString, h]

theorem encode_display_iff {p : Path} :
    Utf8.encode p.display = p.bytes ↔ IsWhole (ofBytes p.bytes) := by
  rw [isWhole_iff]
  constructor
  · intro h
    exact ⟨p.display, by rw [ofString, h]⟩
  · rintro ⟨s, hs⟩
    have hbytes : p.bytes = Utf8.encode s := ofBytes_injective hs
    rw [Path.display, hbytes, Utf8.decodeLossy_encode]

theorem getLast?_of_extensionOf? {name : FileName}
    (h : Path.extensionOf? name = some sageExtension) :
    name.getLast? = some 0x65 := by
  have hreverse : (name.reverse.takeWhile (· != Path.dot)).reverse = sageExtension := by
    rw [Path.extensionOf?] at h
    split at h
    · cases h
    · cases h
    · exact Option.some.inj h
  have hhead : (name.reverse.takeWhile (· != Path.dot)).head? = some 0x65 := by
    rw [← List.getLast?_reverse, hreverse]
    decide +kernel
  obtain ⟨rest, hrest⟩ := List.head?_eq_some_iff.mp hhead
  rw [← List.head?_reverse]
  have hprefix := List.takeWhile_prefix (p := (· != Path.dot)) (l := name.reverse)
  rw [hrest] at hprefix
  obtain ⟨more, hmore⟩ := hprefix
  rw [← hmore]
  rfl

/-- The file of a request does not end in a blank or a double quote. -/
theorem getLast?_file {file : Path} (h : file.extension? = some sageExtension) :
    ∃ c, (ofBytes file.bytes).getLast? = some c ∧ c ≠ ' ' ∧ c ≠ '"' := by
  obtain ⟨name, hname, hextension⟩ := Option.bind_eq_some_iff.mp h
  have hlast := Path.getLast?_bytes hname
  rw [getLast?_of_extensionOf? hextension] at hlast
  rw [ofBytes, List.getLast?_map]
  obtain hlast | hlast | hlast := hlast
  all_goals
    rw [hlast]
    exact ⟨_, rfl, by decide +kernel⟩

variable {r : RunRequest}

/-- In quotes the by-product keeps its characters if the file does. -/
theorem isInert_byproduct
    (hfile : Surroundings.doubleQuotes.isInert (ofBytes r.file.bytes) ['"'] = true) :
    Surroundings.doubleQuotes.isInert (ofBytes r.byproduct.bytes) ['"'] = true := by
  have hpy : ofBytes (Utf8.encode ".py") = ['.', 'p', 'y'] := by decide +kernel
  rw [byproduct, Path.append, ofBytes_append, hpy, isInert_append, Bool.and_eq_true]
  exact ⟨(Literal.isInert_cons (.inr rfl) ..).trans (isInert_dot hfile), by decide +kernel⟩

/-- The by-product is shown as it is if the file is. -/
theorem encode_display_byproduct (h : Utf8.encode r.file.display = r.file.bytes) :
    Utf8.encode r.byproduct.display = r.byproduct.bytes := by
  have hbytes : r.byproduct.bytes = Utf8.encode (r.file.display ++ ".py") := by
    rw [byproduct, Path.append, ← h]
    simp [Utf8.encode]
  rw [Path.display, hbytes, Utf8.decodeLossy_encode]

theorem substance_cleaning (h : Utf8.encode r.byproduct.display = r.byproduct.bytes) :
    substance (r.calls.tail.flatMap fun call => ['&', '&'] ++ call.flatten) =
      substance r.cleaning := by
  rw [calls, cleaning, ofString_display h]
  split <;> simp [substance]

/-- **When the line is the run.**  For every request that is accepted the first of the calls is the
one that its run starts; and the line is read as the run of the interpreter on the file, joined to
the deletion of the by-product if the request cleans, exactly if the interpreter needs no quotes,
the path is well-formed, and each of its characters stays between double quotes. -/
theorem readsAs_shellLine_iff {file : Path} {mode : ExecutionMode} {interpreter : String}
    (h : ofFile file mode interpreter = .ok r) :
    (∃ call ∈ r.calls.head?, r.Starts call) ∧
    (ReadsAs (ofString r.shellLine) r.calls ↔ IsBareWord (ofString r.interpreter) ∧
      Utf8.encode r.file.display = r.file.bytes ∧
        Surroundings.doubleQuotes.isInert (ofBytes r.file.bytes) ['"'] = true) := by
  obtain ⟨rfl, hextension⟩ := of_ofFile_eq_ok h
  rw [ofString_shellLine]
  refine ⟨starts_calls_head _, ?_, ?_⟩
  · intro hreads
    -- The line is text, so that a path which is read from it is well-formed.
    have hwhole : Utf8.encode r.file.display = r.file.bytes := by
      refine encode_display_iff.mpr (isWhole_of_readsAs hreads ?_ _ (by simp))
      rw [← ofString_shellLine]
      exact isWhole_iff.mpr ⟨_, rfl⟩
    rw [ofString_display hwhole] at hreads
    obtain ⟨c, hlast, hc⟩ := getLast?_file hextension
    obtain ⟨hname, hpath⟩ := of_readsAs hreads
      (substance_cleaning (encode_display_byproduct hwhole)) hlast hc fun _ _ => eq_of_cleaning
    exact ⟨hname, hwhole, hpath⟩
  · rintro ⟨hname, hwhole, hpath⟩
    have hshown := ofString_display (encode_display_byproduct hwhole)
    obtain ⟨calls, hjoins, hcalls⟩ := joins_cleaning (r := r) (hshown ▸ isInert_byproduct hpath)
    have hreads := readsAs_line hname hpath hjoins
    rw [hcalls, hshown] at hreads
    rw [ofString_display hwhole, RunRequest.calls]
    exact hreads

/-- A path with blanks is quoted as it has to be. -/
theorem readsAs_shellLine_blank :
    ∃ r, ofFile (.ofString "my work/a b.sage") .runAndClean "sage" = .ok r ∧
      r.shellLine = "sage \"my work/a b.sage\" && rm -f \"my work/a b.sage.py\"" ∧
      r.Starts (["sage", "my work/a b.sage"].map String.toList) ∧
      ReadsAs (ofString r.shellLine) (["sage", "my work/a b.sage"].map String.toList ::
        [["rm", "-f", "my work/a b.sage.py"].map String.toList]) := by
  have hfile : ofFile (.ofString "my work/a b.sage") .runAndClean "sage" =
      .ok ⟨.ofString "my work/a b.sage", "sage", true⟩ := by decide +kernel
  have hcalls : RunRequest.calls ⟨.ofString "my work/a b.sage", "sage", true⟩ =
      ["sage", "my work/a b.sage"].map String.toList ::
        [["rm", "-f", "my work/a b.sage.py"].map String.toList] := by decide +kernel
  have hname : ofString "sage" = ['s', 'a', 'g', 'e'] := by decide +kernel
  obtain ⟨⟨call, hcall, hstarts⟩, hreads⟩ := readsAs_shellLine_iff hfile
  obtain rfl : ["sage", "my work/a b.sage"].map String.toList = call := by
    simpa [hcalls] using hcall
  refine ⟨_, hfile, by decide +kernel, hstarts, ?_⟩
  rw [← hcalls]
  refine hreads.mpr ⟨?_, by decide +kernel, by decide +kernel⟩
  rw [hname]
  decide +kernel

/-- A dollar sign in a path is not escaped, so that what follows it is taken for a parameter. -/
theorem not_readsAs_shellLine_dollar :
    ∃ r, ofFile (.ofString "a$b.sage") .runOnly "sage" = .ok r ∧
      r.shellLine = "sage \"a$b.sage\"" ∧ r.calls = [["sage", "a$b.sage"].map String.toList] ∧
      ¬ ReadsAs (ofString r.shellLine) r.calls := by
  refine ⟨⟨.ofString "a$b.sage", "sage", false⟩, by decide +kernel, by decide +kernel,
    by decide +kernel, fun h => ?_⟩
  rw [ofString_shellLine, ofString_display (by decide +kernel)] at h
  obtain ⟨c, hlast, hc⟩ :=
    getLast?_file (show Path.extension? (.ofString "a$b.sage") = _ by decide +kernel)
  obtain ⟨-, hpath⟩ := of_readsAs h (by decide +kernel) hlast hc fun _ _ => eq_of_cleaning
  exact absurd hpath (by decide +kernel)

end SageEditor.RunRequest
