import Mathlib
import Kudos.Analysis
import Kudos.Proofs.Document.Lines
import Kudos.Proofs.Statement.ScriptRequire
import Kudos.Proofs.Usage

/-!
# Flagged lines

Every line that the analysis flags is a line of the document and not empty
(`exists_line_of_mem_lines`). A use of a name covers at least the name. A statement is flagged at the
line of its offset, so what matters is that no statement starts with a character that ends a line.
-/

namespace Kudos.Analysis

open Text Pattern

variable {d : Document} {a : Pattern} {pre t : Text} {m : Match} {names : List Text} {n : Nat}

/-- Whether every text that the pattern can be read from starts with a character inside a line. -/
def StartsInLine (a : Pattern) : Prop :=
  ∀ pre t, a.Starts pre t → ∃ c u, t = c :: u ∧ c ≠ '\n' ∧ c ≠ '\r'

/-! ## Statements -/

/-- A match of such a pattern stands on a line that is not empty. -/
theorem exists_line_of_mem_found (ha : StartsInLine a) (h : m ∈ a.found d.text) :
    ∃ line, d.lines[d.lineOfOffset m.start]? = some line ∧ line ≠ [] := by
  obtain ⟨x, y, hsplit, hstart, hstarts⟩ := exists_starts_of_mem_found h
  obtain ⟨c, u, rfl, hnl, hcr⟩ := ha _ _ hstarts
  obtain ⟨line, hline, hmem⟩ := Document.exists_line_of_char hsplit hnl hcr
  exact ⟨line, by simpa [hstart] using hline, List.ne_nil_of_mem hmem⟩

theorem ne_of_isIndent {c : Char} (h : isIndent c) : c ≠ '\n' ∧ c ≠ '\r' := by
  refine ⟨ne_newline_of_isIndent h, ?_⟩
  rintro rfl
  exact absurd h (by decide)

/-- A Python statement starts with its indentation or with one of its keywords. -/
theorem startsInLine_python : StartsInLine Python.statement := by
  intro pre t h
  have bracket : Python.statement.Starts pre t ↔ (lineStart ++ (many isIndent ++
      (Pattern.optional Python.fromClause ++ (word "import" ++ (many1 isIndent ++
        (many1 Python.isListChar ++ (Pattern.optional Python.lastAlias ++ wordEdge))))))).Starts
          pre t :=
    starts_iff_of_matchHere rfl
  obtain ⟨_, _, _, rfl, hstart, hindent⟩ := starts_append.mp (bracket.mp h)
  obtain ⟨gap, _, _, rfl, hblanks, horigin⟩ := starts_append.mp hindent
  obtain ⟨origin, _, _, rfl, horigin, hkeyword⟩ := starts_append.mp horigin
  obtain ⟨_, rest, _, rfl, hkeyword, -⟩ := starts_append.mp hkeyword
  obtain ⟨rfl, -⟩ := reads_lineStart.mp hstart
  have hgap := (reads_many.mp hblanks).1
  obtain ⟨rfl, -⟩ := reads_word.mp hkeyword
  rw [List.nil_append]
  cases gap with
  | cons c gap => exact ⟨c, _, rfl, ne_of_isIndent (hgap c List.mem_cons_self)⟩
  | nil =>
    rcases reads_optional.mp horigin with horigin | ⟨rfl, -⟩
    · -- The clause before the keyword starts with a keyword of its own.
      have hstarts : Python.fromClause.Starts _ (origin ++ ("import".toList ++ rest)) :=
        ⟨origin, _, _, rfl, horigin⟩
      have bracket : ∀ pre t, Python.fromClause.Starts pre t ↔ (word "from" ++ (many1 isIndent ++
          (many1 isPathChar ++ many1 isIndent))).Starts pre t :=
        fun _ _ => starts_iff_of_matchHere rfl
      obtain ⟨_, u, _, hsplit, hfrom, -⟩ := starts_append.mp ((bracket _ _).mp hstarts)
      obtain ⟨rfl, -⟩ := reads_word.mp hfrom
      exact ⟨'f', _, hsplit, by decide, by decide⟩
    · exact ⟨'i', _, rfl, by decide, by decide⟩

theorem startsInLine_import : StartsInLine Script.importStatement := by
  intro pre t h
  obtain ⟨-, u, rfl⟩ := Script.exists_of_starts_import h
  exact ⟨'i', _, rfl, by decide, by decide⟩

theorem startsInLine_require : StartsInLine Script.requireStatement := by
  intro pre t h
  obtain ⟨kw, b, u, v, rfl | rfl, -, -, rfl⟩ := Script.exists_of_starts_require h
  · exact ⟨'c', _, rfl, by decide, by decide⟩
  · exact ⟨'l', _, rfl, by decide, by decide⟩

/-- The line of a statement is a line of the document and not empty. -/
theorem exists_line_of_mem_recognize {g : Grammar} {s : Statement} (h : s ∈ g.recognize d) :
    ∃ line, d.lines[s.line]? = some line ∧ line ≠ [] := by
  cases g with
  | python =>
    obtain ⟨m, hm, rfl⟩ := List.mem_map.mp h
    exact exists_line_of_mem_found startsInLine_python hm
  | script =>
    rcases List.mem_append.mp (List.mem_mergeSort.mp h) with h | h
    · obtain ⟨m, hm, rfl⟩ := List.mem_map.mp h
      exact exists_line_of_mem_found startsInLine_import hm
    · obtain ⟨m, hm, rfl⟩ := List.mem_map.mp h
      exact exists_line_of_mem_found startsInLine_require hm

/-! ## Uses -/

/-- A line that uses a name is not empty, since the name stands on it. -/
theorem exists_line_of_mem_usageLines (h : n ∈ Usage.lines d names) :
    ∃ line, d.lines[n]? = some line ∧ line ≠ [] := by
  obtain ⟨line, hline, hused⟩ := Usage.mem_lines.mp h
  obtain ⟨name, -, hname, before, behind, rfl, -⟩ := Usage.usedOn_iff.mp hused
  exact ⟨_, hline, by simp [hname]⟩

/-! ## Both -/

/-- Every flagged line is a line of the document and not empty. -/
theorem exists_line_of_mem_lines (h : n ∈ (ofDocument d).lines) :
    ∃ line, d.lines[n]? = some line ∧ line ≠ [] := by
  cases hg : Grammar.ofTag? d.language with
  | none => simp [ofDocument, hg] at h
  | some g =>
    rw [ofDocument_eq hg] at h
    rcases List.mem_append.mp (mem_ascending.mp h) with h | h
    · have h : n ∈ (ofStatements d (g.recognize d)).statementLines := h
      obtain ⟨s, hs, -, rfl⟩ := mem_statementLines.mp h
      exact exists_line_of_mem_recognize hs
    · exact exists_line_of_mem_usageLines h

end Kudos.Analysis
