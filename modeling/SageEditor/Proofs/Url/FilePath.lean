/-
Files that are given by URLs and by paths.

* `Path.IsDirect` — a path that begins at the root and has no step that could be left out;
* `Url.parse_ofSpelling`, `Url.toFilePath?_of_forall₂` — the URL of a file with such a path, and
  back;
* `Url.parse_of_separator` — a text that begins with a separator is no URL;
* `commandRequest_fileUrl` — a command is given the same run by the URL of a Sage file as by its
  path.

Design notes: behind the two separators of its empty host the URL has the path itself, as it is
spelled.  A spelling has no character that ends the path or is a separator, so its segments are the
spelled names of the path, and without dot segments and the letter of a drive all of them stay.
-/
import Mathlib.Data.List.Forall2
import Mathlib.Data.List.TakeWhile
import SageEditor.Proofs.File.Steps
import SageEditor.Proofs.Text.Utf8
import SageEditor.Proofs.Url.Percent
import SageEditor.Server.Command

namespace SageEditor

open Percent (Spells isSpelling_of_spells inert_of_isSpelling)
open Text (Utf8.encode)

/-- A path that begins at the root and in which no separator is repeated and no step is a dot or
two. -/
structure Path.IsDirect (p : Path) : Prop where
  isAbsolute : p.isAbsolute = true
  names : ∀ name ∈ p.segments.tail, isIdle name = false ∧ name ≠ [dot, dot]

theorem Path.IsDirect.exists_split {p : Path} (h : p.IsDirect) : ∃ bytes,
    p.bytes = separator :: bytes ∧
      ∀ name ∈ split bytes, isIdle name = false ∧ name ≠ [dot, dot] := by
  obtain ⟨bytes, hbytes⟩ : ∃ bytes, p.bytes = separator :: bytes := by
    have hhead := h.isAbsolute
    rw [Path.isAbsolute, decide_eq_true_eq] at hhead
    exact ⟨p.bytes.tail, List.eq_cons_of_mem_head? hhead⟩
  refine ⟨bytes, hbytes, ?_⟩
  have hnames := h.names
  rw [segments, hbytes, split, if_pos rfl] at hnames
  exact hnames

namespace Url

/-! ### Segments -/

theorem ofNat_eq_slash_iff (b : UInt8) : Char.ofNat b.toNat = '/' ↔ b = Path.separator := by
  have hall : ∀ n < 256, (Char.ofNat (UInt8.ofNat n).toNat = '/' ↔
      UInt8.ofNat n = Path.separator) := by decide +kernel
  have hb := hall b.toNat b.toNat_lt
  rwa [UInt8.ofNat_toNat] at hb

/-- The segments of a spelling are the spellings of the names. -/
theorem forall₂_split {bytes : Text.Bytes} {cs : List Char} (h : Spells bytes cs) :
    List.Forall₂ Spells (Path.split bytes) (Text.split '/' cs) := by
  induction h with
  | nil => exact .cons .nil .nil
  | @plain b bytes cs hb _ ih =>
    rw [Path.split, Text.split]
    generalize Path.split bytes = names at ih ⊢
    generalize Text.split '/' cs = segments at ih ⊢
    by_cases hseparator : b = Path.separator
    · rw [if_pos hseparator, if_pos ((ofNat_eq_slash_iff b).mpr hseparator)]
      exact .cons .nil ih
    · rw [if_neg hseparator, if_neg ((ofNat_eq_slash_iff b).not.mpr hseparator)]
      cases ih with
      | nil => exact .cons (.plain hb .nil) .nil
      | cons hname hnames => exact .cons (.plain hb hname) hnames
  | @encoded b bytes cs high low x y hb hhigh hlow hvalue _ ih =>
    -- Neither what is escaped nor the escape ends a segment.
    have hdigit : ∀ {c x}, Json.Read.hexValue? c = some x → c ≠ '/' := by
      rintro _ x hx rfl
      cases hx
    have hseparator : b ≠ Path.separator := by
      rintro rfl
      exact absurd hb (by decide)
    rw [Path.split, if_neg hseparator, Text.split, if_neg (by decide), Text.split,
      if_neg (hdigit hhigh), Text.split, if_neg (hdigit hlow)]
    generalize Path.split bytes = names at ih ⊢
    generalize Text.split '/' cs = segments at ih ⊢
    cases ih with
    | nil => exact .cons (.encoded hb hhigh hlow hvalue .nil) .nil
    | cons hname hnames => exact .cons (.encoded hb hhigh hlow hvalue hname) hnames

/-- A segment that stays as it is. -/
structure IsSettled (segment : List Char) : Prop where
  solid : Url.solid segment = segment
  plainDots : Url.plainDots segment = segment
  encode : Percent.encode Percent.inPath segment = segment
  isStep : segment ≠ [] ∧ segment ≠ ['.'] ∧ segment ≠ ['.', '.']

theorem isSettled_of_spells {name : FileName} {segment : List Char} (h : Spells name segment)
    (hidle : Path.isIdle name = false) (hparent : name ≠ [Path.dot, Path.dot]) :
    IsSettled segment where
  solid := Percent.solid_of_spells h
  plainDots := Percent.plainDots_of_spells h
  encode := Percent.encode_of_spells h
  isStep := by
    have hdecode := Percent.decode_of_spells h
    refine ⟨?_, ?_, ?_⟩ <;> rintro rfl <;> rw [← hdecode] at hidle hparent
    · exact absurd hidle (by decide)
    · exact absurd hidle (by decide)
    · exact hparent (by decide)

/-- Below a first step the segments that stay become steps. -/
theorem walk_of_isSettled {segments above : List (List Char)} (habove : above ≠ [])
    (h : ∀ segment ∈ segments, IsSettled segment) :
    walk .file above false segments = (above.reverse ++ segments, false) := by
  induction segments generalizing above with
  | nil => rw [walk, List.append_nil]
  | cons segment segments ih =>
    obtain ⟨⟨hsolid, hdots, hencode, -, hdot, hparent⟩, hrest⟩ := List.forall_mem_cons.mp h
    have hfirst : above.isEmpty = false := by simpa using habove
    rw [walk]
    simp only [hfirst, hsolid, hdots, hencode, hdot, hparent, if_false, Bool.and_false,
      Bool.false_and, Bool.false_eq_true]
    rw [ih (List.cons_ne_nil _ _) hrest]
    simp

theorem forall_isSettled {names : List FileName} {segments : List (List Char)}
    (h : List.Forall₂ Spells names segments)
    (hnames : ∀ name ∈ names, Path.isIdle name = false ∧ name ≠ [Path.dot, Path.dot]) :
    ∀ segment ∈ segments, IsSettled segment := by
  induction h with
  | nil => simp
  | cons hspells _ ih =>
    obtain ⟨⟨hidle, hparent⟩, hrest⟩ := List.forall_mem_cons.mp hnames
    exact List.forall_mem_cons.mpr ⟨isSettled_of_spells hspells hidle hparent, ih hrest⟩

theorem flatMap_decode {names : List FileName} {segments : List (List Char)}
    (h : List.Forall₂ Spells names segments) :
    (segments.flatMap fun segment => Path.separator :: Percent.decode segment) =
      names.flatMap (Path.separator :: ·) := by
  induction h with
  | nil => rfl
  | cons hspells _ ih =>
    rw [List.flatMap_cons, List.flatMap_cons, ih, Percent.decode_of_spells hspells]

/-- The steps of a URL of a file whose path is a spelling. -/
theorem fileSteps_of_spells {bytes : Text.Bytes} {cs : List Char} (h : Spells bytes cs)
    (hnames : ∀ name ∈ Path.split bytes, Path.isIdle name = false ∧
      name ≠ [Path.dot, Path.dot]) :
    fileSteps [[]] cs = (Text.split '/' cs, false) := by
  have hsame : cs.map (fun c => if SchemeKind.file.isSeparator c then '/' else c) = cs := by
    refine (List.map_congr_left fun c hc => ?_).trans (List.map_id' cs)
    have hbackslash := (inert_of_isSpelling (isSpelling_of_spells h c hc)).2.2.2.2.2
    by_cases hslash : c = '/' <;> simp [SchemeKind.isSeparator, hbackslash, hslash]
  have hsettled := forall_isSettled (forall₂_split h) hnames
  rw [fileSteps, splitPath, hsame, walk_of_isSettled (by simp) hsettled]
  -- The empty step in front of the path is dropped, and no other one is empty.
  cases hsegments : Text.split '/' cs with
  | nil =>
    have hnone := forall₂_split h
    rw [hsegments, List.forall₂_nil_right_iff] at hnone
    have hbytes := Path.flatMap_split bytes
    rw [hnone] at hbytes
    cases hbytes
  | cons segment segments =>
    have hstep := (hsettled segment (hsegments ▸ List.mem_cons_self)).isStep.1
    simp [hstep]

/-! ### Whole URLs -/

/-- The URL of a file, given with the spelling of its path. -/
def ofSpelling (spelling : List Char) : String := "file://" ++ String.ofList spelling

/-- Nothing is trimmed from a text whose first and last characters count. -/
theorem trim_eq {s : String} (hleft : ∀ c ∈ s.toList.head?, isOuterBlank c = false)
    (hright : ∀ c ∈ s.toList.getLast?, isOuterBlank c = false) : trim s = s.toList := by
  have hstays : ∀ {cs : List Char}, (∀ c ∈ cs.head?, isOuterBlank c = false) →
      cs.dropWhile isOuterBlank = cs := by
    intro cs h
    cases cs with
    | nil => rfl
    | cons c cs => rw [List.dropWhile_cons_of_neg (by simp [h c rfl])]
  rw [trim, hstays hleft, hstays (by simpa using hright), List.reverse_reverse]

theorem cut_of_not_mem {mark : Char} {cs : List Char} (h : mark ∉ cs) :
    cut mark cs = (cs, none) := by
  have hall : cs.dropWhile (· != mark) = [] := by
    rw [List.dropWhile_eq_nil_iff]
    rintro c hc
    exact bne_iff_ne.mpr fun heq => h (heq ▸ hc)
  rw [cut, hall]

theorem trim_ofSpelling {cs : List Char} (hinert : ∀ c ∈ cs, isOuterBlank c = false) :
    trim (ofSpelling ('/' :: cs)) = "file:///".toList ++ cs := by
  have htext : (ofSpelling ('/' :: cs)).toList = "file:///".toList ++ cs := by
    simp [ofSpelling]
  have houter : "file:///".toList.all (!isOuterBlank ·) = true := by decide
  rw [← htext]
  refine trim_eq (fun c hc => ?_) (fun c hc => ?_)
  · rw [htext] at hc
    obtain rfl := Option.some.inj hc
    decide
  · rw [htext] at hc
    rcases List.mem_append.mp (List.mem_of_getLast? hc) with hscheme | hpath
    · simpa using List.all_eq_true.mp houter c hscheme
    · exact hinert c hpath

/-- The URL of a file is read as the steps of its path, without a host. -/
theorem parse_ofSpelling {bytes : Text.Bytes} {cs : List Char} (h : Spells bytes cs)
    (hnames : ∀ name ∈ Path.split bytes, Path.isIdle name = false ∧
      name ≠ [Path.dot, Path.dot]) :
    parse (ofSpelling ('/' :: cs)) =
      .ok ⟨fileScheme, some ⟨[], none, none⟩, .steps (Text.split '/' cs), none, none⟩ := by
  have hinert : ∀ c ∈ cs, isOuterBlank c = false ∧ c ≠ '#' ∧ c ≠ '?' := by
    intro c hc
    obtain ⟨-, houter, -, hhash, hquestion, -⟩ := inert_of_isSpelling (isSpelling_of_spells h c hc)
    exact ⟨houter, hhash, hquestion⟩
  have hscheme : scheme? ("file:///".toList ++ cs) =
      some (fileScheme, '/' :: '/' :: '/' :: cs) := rfl
  have hfragment : '#' ∉ '/' :: '/' :: '/' :: cs := by
    simpa using fun hmem => (hinert _ hmem).2.1 rfl
  have hquery : '?' ∉ '/' :: '/' :: '/' :: cs := by
    simpa using fun hmem => (hinert _ hmem).2.2 rfl
  have hhost : parseFile ('/' :: '/' :: '/' :: cs) = .ok (none, (fileSteps [[]] cs).1) := rfl
  rw [parse, trim_ofSpelling fun c hc => (hinert c hc).1, hscheme]
  simp only [cut_of_not_mem hfragment, cut_of_not_mem hquery]
  rw [show SchemeKind.ofScheme fileScheme = .file from rfl]
  simp only [hhost, fileSteps_of_spells h hnames]
  rfl

/-- The path of a URL without a host whose steps are spellings. -/
theorem toFilePath?_of_forall₂ {names : List FileName} {segments : List (List Char)}
    (h : List.Forall₂ Spells names segments) (scheme : List Char) :
    toFilePath? ⟨scheme, some ⟨[], none, none⟩, .steps segments, none, none⟩ =
      some ⟨closeDrive (names.flatMap (Path.separator :: ·))⟩ := by
  rw [← flatMap_decode h]
  rfl

/-- A path that does not end like the letter of a drive stays as it is. -/
theorem closeDrive_of_getLast? {bytes : Text.Bytes} {last : UInt8}
    (hlast : bytes.getLast? = some last) (hmark : last ≠ 0x3a ∧ last ≠ 0x7c) :
    closeDrive bytes = bytes := by
  rw [← List.head?_reverse] at hlast
  rw [closeDrive]
  split
  · next hreverse =>
    rw [hreverse] at hlast
    obtain rfl := Option.some.inj hlast
    simp [hmark]
  · rfl

/-- A text that begins with a separator is no URL. -/
theorem parse_of_separator {s : String} {cs : List Char} (htrim : trim s = '/' :: cs) :
    parse s = .error .relative := by
  rw [parse, htrim]
  rfl

end Url

/-! ### The first argument of a command -/

/-- A path from the root begins with a separator. -/
theorem exists_toList_of_isAbsolute {p : String} {bytes : Text.Bytes}
    (h : Utf8.encode p = Path.separator :: bytes) : ∃ cs, p.toList = '/' :: cs := by
  rw [Utf8.encode] at h
  cases hp : p.toList with
  | nil => rw [hp] at h; cases h
  | cons c cs =>
    rw [hp, List.flatMap_cons] at h
    have hdecode := Text.Utf8.decodeFrom_encodeChar c (cs.flatMap String.utf8EncodeChar)
    rw [h] at hdecode
    have hfirst : some '/' = some c := (List.cons.inj hdecode).1
    exact ⟨cs, by rw [Option.some.inj hfirst]⟩

/-- **The URL of a Sage file and its path name the same run.**  A path from the root to a Sage file
that has no step to be left out can be spelled in a URL, and every URL with such a spelling is taken
for that path, as the path itself is.  So with any command and any configuration both give the same
request or the same error. -/
theorem commandRequest_fileUrl {p : String} (hdirect : (Path.ofString p).IsDirect)
    (hsage : ".sage".toList <:+ p.toList) :
    (∃ spelling, Spells (Utf8.encode p) spelling) ∧
    ∀ spelling, Spells (Utf8.encode p) spelling → ∀ arguments,
      fileArgument (.string (Url.ofSpelling spelling) :: arguments) = .ok (.ofString p) ∧
      fileArgument (.string p :: arguments) = .ok (.ofString p) ∧
      ∀ (command : String) (c : Configuration),
        commandRequest command (.string (Url.ofSpelling spelling) :: arguments) c =
          commandRequest command (.string p :: arguments) c := by
  refine ⟨Percent.exists_spells _, fun spelling hspells arguments => ?_⟩
  obtain ⟨bytes, hbytes, hnames⟩ := hdirect.exists_split
  change Utf8.encode p = _ at hbytes
  obtain ⟨front, hfront⟩ := hsage
  have hurl : fileArgument (.string (Url.ofSpelling spelling) :: arguments) = .ok (.ofString p) := by
    have hlast : (Path.separator :: bytes).getLast? = some 0x65 := by
      rw [← hbytes, Utf8.encode, ← hfront, List.flatMap_append, List.getLast?_append]
      rfl
    rw [hbytes] at hspells
    cases hspells with
    | encoded hb => exact absurd hb (by decide)
    | plain _ hrest =>
      have hfile := Url.toFilePath?_of_forall₂ (Url.forall₂_split hrest) Url.fileScheme
      rw [Path.flatMap_split, Url.closeDrive_of_getLast? hlast (by decide), ← hbytes] at hfile
      have hparse := Url.parse_ofSpelling hrest hnames
      change Url.parse (Url.ofSpelling (Char.ofNat Path.separator.toNat :: _)) = _ at hparse
      rw [fileArgument]
      simp only [hparse, if_true, hfile]
      rfl
  have hpath : fileArgument (.string p :: arguments) = .ok (.ofString p) := by
    obtain ⟨cs, hcs⟩ := exists_toList_of_isAbsolute hbytes
    have htrim : Url.trim p = '/' :: cs := by
      rw [← hcs]
      refine Url.trim_eq (fun c hc => ?_) (fun c hc => ?_)
      · rw [hcs] at hc
        obtain rfl := Option.some.inj hc
        decide
      · rw [← hfront, List.getLast?_append] at hc
        obtain rfl := Option.some.inj hc
        decide
    rw [fileArgument]
    simp only [Url.parse_of_separator htrim]
  refine ⟨hurl, hpath, fun command c => ?_⟩
  rw [commandRequest, commandRequest]
  cases Command.ofName? command with
  | none => rfl
  | some found => cases found <;> simp only [runRequest, hurl, hpath]

/-- A path with a blank, a percent sign, a hash sign and a letter beyond ASCII. -/
theorem commandRequest_fileUrl_blank :
    fileArgument [.string "file:///a%20b/%25%c3%a9%23.sage"] = .ok (.ofString "/a b/%é#.sage") ∧
      commandRequest "sage.runFile" [.string "file:///a%20b/%25%c3%a9%23.sage"]
          (.start ⟨none, none⟩) =
        commandRequest "sage.runFile" [.string "/a b/%é#.sage"] (.start ⟨none, none⟩) := by
  have hbytes : Utf8.encode "/a b/%é#.sage" = [0x2f, 0x61, 0x20, 0x62, 0x2f, 0x25, 0xc3, 0xa9, 0x23,
      0x2e, 0x73, 0x61, 0x67, 0x65] := by decide +kernel
  have hspells : Spells (Utf8.encode "/a b/%é#.sage") "/a%20b/%25%c3%a9%23.sage".toList := by
    rw [hbytes]
    exact .plain rfl (.plain rfl (.encoded rfl rfl rfl rfl (.plain rfl (.plain rfl
      (.encoded rfl rfl rfl rfl (.encoded rfl rfl rfl rfl (.encoded rfl rfl rfl rfl
      (.encoded rfl rfl rfl rfl (.plain rfl (.plain rfl (.plain rfl (.plain rfl
      (.plain rfl .nil)))))))))))))
  have hdirect : (Path.ofString "/a b/%é#.sage").IsDirect :=
    ⟨by decide +kernel, by decide +kernel⟩
  obtain ⟨-, hsame⟩ := commandRequest_fileUrl hdirect ⟨"/a b/%é#".toList, by decide⟩
  obtain ⟨hurl, -, hrun⟩ := hsame _ hspells []
  exact ⟨hurl, hrun "sage.runFile" (.start ⟨none, none⟩)⟩

end SageEditor
