import Mathlib
import Kudos.Proofs.Analysis
import Kudos.Proofs.Statement.Names
import Kudos.Proofs.Statement.ScriptDocument

/-!
# Well-formed analyses

Whatever the text, statements stand one behind the other and know their lines
(`Grammar.pairwise_offset_recognize`, `Grammar.line_eq_count`), and an analysis can be shown without
checking it (`Analysis.wellFormed_ofDocument`): its lines are lines of the document with text on them,
there are flagged lines exactly when there are library imports, and its bindings come line by line and
bind names.
-/

namespace Kudos

open Text Pattern

variable {d : Document} {s : Statement} {g : Grammar} {m m' : Match} {t : Text} {ss : List Statement}

/-! ## Statements in order -/

namespace Script

/-- No place starts both kinds of statements: one opens with `import`, the other with `const` or
`let`. -/
theorem start_ne_of_mem_found (h : m ∈ importStatement.found t) (h' : m' ∈ requireStatement.found t) :
    m.start ≠ m'.start := by
  intro hstart
  obtain ⟨x, y, rfl, hx, himport⟩ := exists_starts_of_mem_found h
  obtain ⟨x', y', hsplit, hx', hrequire⟩ := exists_starts_of_mem_found h'
  obtain ⟨rfl, rfl⟩ := List.append_inj hsplit (by omega)
  obtain ⟨-, u, rfl⟩ := exists_of_starts_import himport
  obtain ⟨kw, b, v, w, rfl | rfl, -, -, hword⟩ := exists_of_starts_require hrequire
  · simp at hword
  · simp at hword

theorem pairwise_offset_recognize (d : Document) :
    (recognize d).Pairwise fun s s' => s.offset < s'.offset := by
  have imports : (imports d).Pairwise fun s s' => s.offset ≠ s'.offset :=
    List.pairwise_map.mpr ((pairwise_start_found importStatement d.text).imp Nat.ne_of_lt)
  have requires : (requires d).Pairwise fun s s' => s.offset ≠ s'.offset :=
    List.pairwise_map.mpr ((pairwise_start_found requireStatement d.text).imp Nat.ne_of_lt)
  have distinct : (Script.imports d ++ Script.requires d).Pairwise fun s s' => s.offset ≠ s'.offset := by
    refine List.pairwise_append.mpr ⟨imports, requires, fun s hs s' hs' => ?_⟩
    obtain ⟨m, hm, rfl⟩ := List.mem_map.mp hs
    obtain ⟨m', hm', rfl⟩ := List.mem_map.mp hs'
    exact start_ne_of_mem_found hm hm'
  have still := (List.mergeSort_perm _ fun s s' => decide (s.offset ≤ s'.offset)).symm.pairwise distinct
    fun h => h.symm
  exact (pairwise_offset_mergeSort _).imp₂ (fun s s' => Nat.lt_of_le_of_ne) still

end Script

namespace Grammar

/-- Statements stand one behind the other. -/
theorem pairwise_offset_recognize (g : Grammar) (d : Document) :
    (g.recognize d).Pairwise fun s s' => s.offset < s'.offset := by
  cases g with
  | python => exact List.pairwise_map.mpr (pairwise_start_found Python.statement d.text)
  | script => exact Script.pairwise_offset_recognize d

/-- A statement is on the line that as many newlines precede. -/
theorem line_eq_count (h : s ∈ g.recognize d) : s.line = (d.text.take s.offset).count '\n' := by
  cases g with
  | python =>
    obtain ⟨m, -, rfl⟩ := List.mem_map.mp h
    exact Document.lineOfOffset_eq_count d m.start
  | script =>
    rcases List.mem_append.mp (List.mem_mergeSort.mp h) with h | h <;>
    · obtain ⟨m, -, rfl⟩ := List.mem_map.mp h
      exact Document.lineOfOffset_eq_count d m.start

theorem pairwise_line_recognize (g : Grammar) (d : Document) :
    (g.recognize d).Pairwise fun s s' => s.line ≤ s'.line := by
  refine (pairwise_offset_recognize g d).imp_of_mem fun {s s'} hs hs' hlt => ?_
  rw [line_eq_count hs, line_eq_count hs']
  exact (List.take_sublist_take_left (Nat.le_of_lt hlt)).count_le _

end Grammar

/-! ## Analyses -/

namespace Analysis

/-- What can be relied on where an analysis is shown. -/
structure WellFormed (d : Document) (a : Analysis) : Prop where
  statementLines_subset : a.statementLines ⊆ a.lines
  lt_lineCount : ∀ n ∈ a.lines, n < d.lineCount
  text_ne_nil : ∀ n ∈ a.lines, ∃ line, d.lines[n]? = some line ∧ line ≠ []
  hasImport_iff_lines : a.hasImport ↔ a.lines ≠ []
  hasImport_iff_statementLines : a.hasImport ↔ a.statementLines ≠ []
  ordered : a.bindings.Pairwise fun b b' => b.line ≤ b'.line
  line_mem : ∀ b ∈ a.bindings, b.line ∈ a.statementLines
  isName : ∀ b ∈ a.bindings, IsName b.name
  not_isLocal : ∀ b ∈ a.bindings, ¬ Script.isLocal b.source

theorem mem_bindingsOf {b : Binding} :
    b ∈ bindingsOf ss ↔ ∃ s ∈ ss, ∃ name ∈ s.names, b = ⟨name, s.source, s.line⟩ := by
  simp [bindingsOf, eq_comm]

/-- Bindings are as much in order as their statements. -/
theorem pairwise_line_bindingsOf (h : ss.Pairwise fun s s' => s.line ≤ s'.line) :
    (bindingsOf ss).Pairwise fun b b' => b.line ≤ b'.line := by
  refine List.pairwise_flatMap.mpr ⟨fun s _ => ?_, h.imp fun {s s'} hle => ?_⟩
  · exact List.pairwise_map.mpr (List.pairwise_of_forall fun _ _ => Nat.le_refl _)
  · intro b hb b' hb'
    obtain ⟨_, -, rfl⟩ := List.mem_map.mp hb
    obtain ⟨_, -, rfl⟩ := List.mem_map.mp hb'
    exact hle

/-- A binding is that of a library import. -/
theorem exists_statement_of_mem_bindings {b : Binding} (h : b ∈ (ofStatements d ss).bindings) :
    ∃ s ∈ ss, s.isExternal ∧ ∃ name ∈ s.names, b = ⟨name, s.source, s.line⟩ := by
  obtain ⟨s, hs, hb⟩ := mem_bindingsOf.mp h
  obtain ⟨hs, hexternal⟩ := List.mem_filter.mp hs
  exact ⟨s, hs, hexternal, hb⟩

/-- Without a library import nothing is flagged: names are used only where some are bound. -/
theorem statementLines_ne_nil (h : (ofStatements d ss).lines ≠ []) :
    (ofStatements d ss).statementLines ≠ [] := by
  obtain ⟨n, hn⟩ := List.exists_mem_of_ne_nil _ h
  rcases mem_lines_iff.mp hn with hn | hn
  · exact List.ne_nil_of_mem hn
  · obtain ⟨line, -, hused⟩ := Usage.mem_lines.mp hn
    obtain ⟨name, hname, -⟩ := Usage.usedOn_iff.mp hused
    obtain ⟨b, hb, -⟩ := List.mem_map.mp hname
    obtain ⟨s, hs, hexternal, -⟩ := exists_statement_of_mem_bindings hb
    exact List.ne_nil_of_mem (mem_statementLines.mpr ⟨s, hs, hexternal, rfl⟩)

theorem hasImport_iff {a : Analysis} : a.hasImport ↔ a.lines ≠ [] := by
  simp [hasImport]

theorem wellFormed_empty (d : Document) : WellFormed d {} where
  statementLines_subset := List.Subset.refl _
  lt_lineCount := by simp
  text_ne_nil := by simp
  hasImport_iff_lines := hasImport_iff
  hasImport_iff_statementLines := hasImport_iff
  ordered := List.Pairwise.nil
  line_mem := by simp
  isName := by simp
  not_isLocal := by simp

theorem wellFormed_ofStatements (h : Grammar.ofTag? d.language = some g) :
    WellFormed d (ofStatements d (g.recognize d)) := by
  have shown : ∀ n ∈ (ofStatements d (g.recognize d)).lines,
      ∃ line, d.lines[n]? = some line ∧ line ≠ [] := by
    intro n hn
    rw [← ofDocument_eq h] at hn
    exact exists_line_of_mem_lines hn
  refine ⟨fun n => mem_lines_of_mem_statementLines, fun n hn => ?_, shown, hasImport_iff, ?_, ?_,
    fun b hb => ?_, fun b hb => ?_, fun b hb => ?_⟩
  · obtain ⟨line, hline, -⟩ := shown n hn
    exact (List.getElem?_eq_some_iff.mp hline).1
  · refine hasImport_iff.trans ⟨statementLines_ne_nil, fun hne => ?_⟩
    obtain ⟨n, hn⟩ := List.exists_mem_of_ne_nil _ hne
    exact List.ne_nil_of_mem (mem_lines_of_mem_statementLines hn)
  · exact pairwise_line_bindingsOf ((Grammar.pairwise_line_recognize g d).filter _)
  · obtain ⟨s, hs, hexternal, name, -, rfl⟩ := exists_statement_of_mem_bindings hb
    exact mem_statementLines.mpr ⟨s, hs, hexternal, rfl⟩
  · obtain ⟨s, hs, -, name, hname, rfl⟩ := exists_statement_of_mem_bindings hb
    exact Grammar.isName_of_mem_recognize hs name hname
  · obtain ⟨s, hs, hexternal, name, -, rfl⟩ := exists_statement_of_mem_bindings hb
    exact Grammar.not_isLocal_of_isExternal hs hexternal

/-- Every document has well-formed statements, whichever grammar it is read with, and a well-formed
analysis. -/
theorem wellFormed_ofDocument (d : Document) :
    (∀ g : Grammar, (g.recognize d).Pairwise (fun s s' => s.offset < s'.offset) ∧
      ∀ s ∈ g.recognize d, s.line = (d.text.take s.offset).count '\n') ∧
    WellFormed d (ofDocument d) := by
  refine ⟨fun g => ⟨Grammar.pairwise_offset_recognize g d, fun s => Grammar.line_eq_count⟩, ?_⟩
  cases hg : Grammar.ofTag? d.language with
  | none =>
    rw [ofDocument, hg]
    exact wellFormed_empty d
  | some g =>
    rw [ofDocument_eq hg]
    exact wellFormed_ofStatements hg

end Analysis

end Kudos
