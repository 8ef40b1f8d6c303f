/-
Making a grammar file is all or nothing.

* `makeGrammar_eq_ok_iff` — the grammar is the injection of the two files as they are;
* `injectFiles_cases` — a call fails and changes nothing, or it sets the content of one file;
* `injectFiles_all_or_nothing` — what is found where afterwards.

Design notes: both files are read before anything is written, so that it does not matter whether
the grammar takes the place of one of them.
-/
import SageEditor.Highlight.Files
import SageEditor.Proofs.File.Replacing
import SageEditor.Proofs.Highlight.Injection

namespace SageEditor.Highlight

open Json (bind_eq_ok mapError_eq_ok)
open Text (Utf8.encode)

variable {fs : FileSystem} {symbols template output : Path}

theorem makeGrammar_eq_ok_iff {i : Injection} :
    makeGrammar fs symbols template = .ok i ↔
      ∃ catalog text, fs.load Catalog.parse symbols = .ok catalog ∧
        fs.readText template = .ok text ∧ inject text (.ofCatalog catalog) = .ok i := by
  simp only [makeGrammar, bind_eq_ok, mapError_eq_ok]
  exact ⟨fun ⟨catalog, hcatalog, text, htext, hi⟩ => ⟨catalog, text, hcatalog, htext, hi⟩,
    fun ⟨catalog, text, hcatalog, htext, hi⟩ => ⟨catalog, hcatalog, text, htext, hi⟩⟩

/-- A grammar file is not made and nothing changes, or the output gets the grammar of the symbols
and the template as they were. -/
theorem injectFiles_cases (fs : FileSystem) (symbols template output : Path) :
    (∃ e, injectFiles fs symbols template output = (fs, .error e)) ∨
      ∃ i l mode, makeGrammar fs symbols template = .ok i ∧
        injectFiles fs symbols template output =
          (fs.put l (.file (Utf8.encode i.grammar) mode), .ok i) ∧
        fs.IsTarget output l mode ∧ l ≠ [] ∧
        (fs.put l (.file (Utf8.encode i.grammar) mode)).find output =
          .ok (l, .file (Utf8.encode i.grammar) mode) := by
  rw [injectFiles]
  cases hmake : makeGrammar fs symbols template with
  | error e => exact .inl ⟨e, rfl⟩
  | ok i =>
    dsimp only
    rw [writeGrammar]
    rcases fs.replace_cases output (Utf8.encode i.grammar) with
      ⟨e, hreplace⟩ | ⟨l, mode, hreplace, htarget⟩
    · rw [hreplace]
      exact .inl ⟨_, rfl⟩
    · rw [hreplace]
      exact .inr ⟨i, l, mode, rfl, rfl, htarget⟩

/-- **Making a grammar file is all or nothing.**  If it fails, at whatever stage, the files are what
they were.  If it succeeds, the output holds the grammar that is returned, which is the injection
of the symbols and the template as they were before.  An output that was there keeps its permission
bits and a new one gets those of new files, and no other location has changed. -/
theorem injectFiles_all_or_nothing (fs : FileSystem) (symbols template output : Path) :
    (∀ fs' e, injectFiles fs symbols template output = (fs', .error e) → fs' = fs) ∧
    ∀ fs' i, injectFiles fs symbols template output = (fs', .ok i) →
      (∃ catalog text, fs.load Catalog.parse symbols = .ok catalog ∧
        fs.readText template = .ok text ∧ inject text (.ofCatalog catalog) = .ok i) ∧
      ∃ l mode, fs'.find output = .ok (l, .file (Utf8.encode i.grammar) mode) ∧
        ((∃ old, fs.find output = .ok (l, .file old mode)) ∨
          fs.find output = .error .notFound ∧ fs.node? l = none ∧ mode = 0o644) ∧
        fs' = fs.put l (.file (Utf8.encode i.grammar) mode) ∧
        ∀ l', l' ≠ l → fs'.node? l' = fs.node? l' := by
  rcases injectFiles_cases fs symbols template output with
    ⟨e, hfail⟩ | ⟨i, l, mode, hmake, hdone, htarget, hroot, hfind⟩
  -- What a call returns tells which of the two it was.
  · refine ⟨fun fs' e' h => ?_, fun fs' i h => ?_⟩
    · exact (Prod.mk.inj (h.symm.trans hfail)).1
    · cases (Prod.mk.inj (h.symm.trans hfail)).2
  · refine ⟨fun fs' e h => ?_, fun fs' i' h => ?_⟩
    · cases (Prod.mk.inj (h.symm.trans hdone)).2
    · obtain ⟨rfl, hi⟩ := Prod.mk.inj (h.symm.trans hdone)
      obtain rfl := Except.ok.inj hi
      refine ⟨makeGrammar_eq_ok_iff.mp hmake, l, mode, hfind, htarget, rfl, fun l' hne => ?_⟩
      rw [FileSystem.node?_put fs hroot, if_neg hne]

/-- A directory with an empty symbol file and a template that only its owner may read. -/
def grammarFolder : FileSystem :=
  { nodes := [([Utf8.encode "s.json"], .file (Utf8.encode "\x7b\x7d") 0o644),
      ([Utf8.encode "t.json"], .file (Utf8.encode listTemplate) 0o600)]
    current := []
    capacity := none
    privileged := false }

/-- The grammar of these files. -/
def listGrammar : Injection :=
  ⟨"[\"\\\\b\\\\B\",\"\\\\b\\\\B\",\"\\\\b\\\\B\"]",
    [(.classes, 1), (.functions, 1), (.constants, 1)]⟩

/-- The grammar may take the place of the template; without symbols it does not. -/
theorem injectFiles_all_or_nothing_self :
    (∃ e, injectFiles grammarFolder (.ofString "no.json") (.ofString "t.json") (.ofString "t.json") =
      (grammarFolder, .error e)) ∧
    ∃ fs' l, injectFiles grammarFolder (.ofString "s.json") (.ofString "t.json")
        (.ofString "t.json") = (fs', .ok listGrammar) ∧
      fs'.find (.ofString "t.json") = .ok (l, .file (Utf8.encode listGrammar.grammar) 0o600) := by
  have hfail : (injectFiles grammarFolder (.ofString "no.json") (.ofString "t.json")
      (.ofString "t.json")).2 = .error (.catalog ⟨.ofString "no.json", .unreadable .notFound⟩) := by
    decide +kernel
  have hmake : makeGrammar grammarFolder (.ofString "s.json") (.ofString "t.json") =
      .ok listGrammar :=
    makeGrammar_eq_ok_iff.mpr ⟨.empty, listTemplate, by decide +kernel, by decide +kernel,
      inject_listTemplate⟩
  have hwritten : (writeGrammar grammarFolder (.ofString "t.json") listGrammar.grammar).2 =
      .ok () := by decide +kernel
  obtain ⟨fs'', hwrite⟩ : ∃ fs', writeGrammar grammarFolder (.ofString "t.json")
      listGrammar.grammar = (fs', .ok ()) := ⟨_, Prod.ext rfl hwritten⟩
  have hdone : injectFiles grammarFolder (.ofString "s.json") (.ofString "t.json")
      (.ofString "t.json") = (fs'', .ok listGrammar) := by
    simp only [injectFiles, hmake, hwrite]
  have hbefore : grammarFolder.find (.ofString "t.json") =
      .ok ([Utf8.encode "t.json"], .file (Utf8.encode listTemplate) 0o600) := by
    decide +kernel
  obtain ⟨-, l, mode, hfind, htarget, -⟩ :=
    (injectFiles_all_or_nothing grammarFolder (.ofString "s.json") (.ofString "t.json")
      (.ofString "t.json")).2 fs'' listGrammar hdone
  have hmode : mode = 0o600 := by
    rcases htarget with ⟨old, hold⟩ | ⟨hmissing, -⟩
    · rw [hbefore] at hold
      exact (Node.file.inj (Prod.mk.inj (Except.ok.inj hold)).2).2.symm
    · rw [hbefore] at hmissing
      cases hmissing
  have hunchanged := (injectFiles_all_or_nothing grammarFolder (.ofString "no.json")
    (.ofString "t.json") (.ofString "t.json")).1 _ _ (Prod.ext rfl hfail)
  exact ⟨⟨_, Prod.ext hunchanged hfail⟩, fs'', l, hdone, hmode ▸ hfind⟩

end SageEditor.Highlight
