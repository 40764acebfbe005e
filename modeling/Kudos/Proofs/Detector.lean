import Mathlib
import Kudos.Detector
import Kudos.Proofs.Analysis.WellFormed
import Kudos.Proofs.Statement.PythonJoined

/-!
# What the detector counts

The detector counts matches, and the analysis collects the lines on which they start. Both find the same
number (`length_statements`): a match starts where a line starts and the next one starts behind it, so it
starts on a later line.
-/

namespace Kudos

open Text Pattern

variable {d : Document} {a : Pattern} {m : Match} {pre run rest t : Text} {gs : List Text}
  {s : Statement}

/-! ## Matches at line starts -/

/-- Whether the pattern can only be read where a line starts. -/
def Pattern.LineBound (a : Pattern) : Prop :=
  ∀ pre t, a.Starts pre t → StartsLine pre

theorem lineBound_python : Python.statement.LineBound := by
  rintro pre _ ⟨run, rest, gs, rfl, hreads⟩
  exact Python.startsLine_of_reads hreads

theorem lineBound_import : Script.importStatement.LineBound :=
  fun _ _ hstarts => (Script.exists_of_starts_import hstarts).1

/-- The matches of such a pattern are on different lines, in ascending order. -/
theorem pairwise_line_found (ha : a.LineBound) (d : Document) :
    (a.found d.text).Pairwise fun m m' => d.lineOfOffset m.start < d.lineOfOffset m'.start := by
  refine (pairwise_start_found a d.text).imp_of_mem fun {m m'} _ hm' hlt => ?_
  obtain ⟨x, y, htext, hstart, hstarts⟩ := exists_starts_of_mem_found hm'
  rw [hstart] at hlt ⊢
  have before : d.text.take m.start = x.take m.start := by
    rw [htext, List.take_append_of_le_length (Nat.le_of_lt hlt)]
  rw [Document.lineOfOffset_length htext, Document.lineOfOffset_eq_count, Int.toNat_natCast, before]
  exact Python.count_lt_of_lt (ha _ _ hstarts) hlt

/-! ## Python -/

namespace Python

theorem pairwise_line_recognize (d : Document) :
    (recognize d).Pairwise fun s s' => s.line < s'.line :=
  List.pairwise_map.mpr (pairwise_line_found lineBound_python d)

/-- No two statements share a line, so each of them has its own place among the lines. -/
theorem statementLines_eq_map (hlanguage : d.language = "python") :
    (Analysis.ofDocument d).statementLines = (recognize d).map (·.line) := by
  rw [ofDocument_eq_of_python hlanguage, Analysis.ofStatements]
  simp only [filter_isExternal_recognize]
  exact Analysis.ascending_eq (List.pairwise_map.mpr (pairwise_line_recognize d)) fun _ => Iff.rfl

end Python

/-! ## Scripts -/

namespace Script

/-- Whether a statement is one of the `import` form. -/
def opensWithImport (s : Statement) : Bool :=
  s.text.startsWith "import".toList

theorem import_prefix_of_reads (h : importStatement.Reads pre run rest gs) :
    "import".toList <+: run := by
  iterate 8 obtain ⟨_, _, _, _, rfl, -, h, -⟩ := reads_append.mp h
  obtain ⟨_, _, _, _, rfl, -, hstart, hword⟩ := reads_append.mp h
  obtain ⟨rfl, -⟩ := reads_lineStart.mp hstart
  obtain ⟨rfl, -⟩ := reads_word.mp hword
  simp

theorem opensWithImport_of_mem_imports (h : s ∈ imports d) : opensWithImport s := by
  obtain ⟨m, hm, rfl⟩ := List.mem_map.mp h
  obtain ⟨x, rest, -, -, hreads⟩ := exists_reads_of_mem_found hm
  exact List.isPrefixOf_iff_prefix.mpr (import_prefix_of_reads hreads)

/-- A `require` statement opens with `const` or `let`. -/
theorem not_opensWithImport_of_mem_requires (h : s ∈ requires d) : ¬ opensWithImport s := by
  intro hopens
  obtain ⟨m, hm, rfl⟩ := List.mem_map.mp h
  obtain ⟨x, rest, -, -, hreads⟩ := exists_reads_of_mem_found hm
  obtain ⟨u, hu⟩ := List.isPrefixOf_iff_prefix.mp hopens
  obtain ⟨kw, b, v, w, hkw, -, -, hsplit⟩ := exists_of_starts_require ⟨m.text, rest, _, rfl, hreads⟩
  have htext : "import".toList ++ u = m.text := hu
  rw [← htext] at hsplit
  rcases hkw with rfl | rfl
  · simp at hsplit
  · simp at hsplit

theorem filter_opensWithImport (d : Document) : (recognize d).filter opensWithImport = imports d := by
  have perm : ((recognize d).filter opensWithImport).Perm (imports d) := by
    have hsplit := (List.mergeSort_perm (imports d ++ requires d)
      fun s s' => decide (s.offset ≤ s'.offset)).filter opensWithImport
    have kept : (imports d).filter opensWithImport = imports d :=
      List.filter_eq_self.mpr fun s => opensWithImport_of_mem_imports
    have dropped : (requires d).filter opensWithImport = [] :=
      List.filter_eq_nil_iff.mpr fun s => not_opensWithImport_of_mem_requires
    rwa [List.filter_append, kept, dropped, List.append_nil] at hsplit
  have ordered : ((recognize d).filter opensWithImport).Pairwise fun s s' => s.offset < s'.offset :=
    (pairwise_offset_recognize d).filter _
  have expected : (imports d).Pairwise fun s s' => s.offset < s'.offset :=
    List.pairwise_map.mpr (pairwise_start_found importStatement d.text)
  refine perm.eq_of_pairwise (fun s s' _ _ hlt hlt' => ?_) ordered expected
  omega

end Script

/-! ## Counting -/

namespace Detector

/-- The detector counts as many Python statements as there are lines of them, and as many script
statements as are recognized with the keyword `import` in front, each of which has its own line. -/
theorem length_statements (d : Document) :
    (d.language = "python" →
      (statements d).length = (Analysis.ofDocument d).statementLines.length) ∧
    (d.language = "typescript" →
      (statements d).length =
          ((Grammar.script.recognize d).filter fun s => s.text.startsWith "import".toList).length ∧
        ((Grammar.script.recognize d).filter fun s => s.text.startsWith "import".toList).Pairwise
          fun s s' => s.line < s'.line) := by
  constructor
  · intro hlanguage
    have counted : statements d = Python.listed d.text := by
      rw [statements, hlanguage]
      rfl
    rw [counted, Python.statementLines_eq_map hlanguage]
    simp [Python.listed, Python.recognize]
  · intro hlanguage
    have counted : statements d = Script.listed d.text := by
      rw [statements, hlanguage]
      rfl
    have recognized : ((Grammar.script.recognize d).filter fun s => s.text.startsWith "import".toList) =
        Script.imports d := Script.filter_opensWithImport d
    rw [counted, recognized]
    refine ⟨by simp [Script.listed, Script.imports], ?_⟩
    exact List.pairwise_map.mpr (pairwise_line_found lineBound_import d)

/-- A Python text with a comment between two imports, and a script in which the `import` starts inside the
`require` statement before it. -/
theorem length_statements_commented :
    let d : Document := { text := "import os\n# import re\nfrom a import b".toList, language := "python" }
    let e : Document :=
      { text := "const a = require('a')\nimport b from 'b';".toList, language := "typescript" }
    ((statements d).length = 2 ∧ (statements d).length = (Analysis.ofDocument d).statementLines.length) ∧
      (statements e).length = 1 ∧ (statements e).length =
        ((Grammar.script.recognize e).filter fun s => s.text.startsWith "import".toList).length := by
  intro d e
  exact ⟨⟨by decide +kernel, (length_statements d).1 rfl⟩, by decide +kernel,
    ((length_statements e).2 rfl).1⟩

end Detector

end Kudos
