import Kudos.Grammar
import Kudos.Usage

/-!
# Analysis

The analysis of a document: the lines that import from a library or use what is imported. It is a
function of the text and the language tag alone. Documents without a grammar have no such lines.
-/

namespace Kudos

/-- A name bound by an import statement. -/
structure Binding where
  /-- The bound name. -/
  name : Text
  /-- The module it comes from. -/
  source : Text
  /-- The line of the statement. -/
  line : Nat
  deriving Repr, DecidableEq

/-- What the analysis of a document finds. Lists of lines are in ascending order without
repetitions. -/
structure Analysis where
  /-- The flagged lines: those of library imports and those that use what is imported. -/
  lines : List Nat := []
  /-- The lines of library imports. -/
  statementLines : List Nat := []
  /-- The bound names, statement by statement. -/
  bindings : List Binding := []
  deriving Repr, DecidableEq, Inhabited

namespace Analysis

/-- Numbers in ascending order without repetitions. -/
def ascending (ns : List Nat) : List Nat :=
  Ascending.ofList (fun a b => decide (a ≤ b)) ns

/-- The numbers are those of the given list. -/
theorem mem_ascending {n : Nat} {ns : List Nat} : n ∈ ascending ns ↔ n ∈ ns := by
  simp [ascending]

/-- Every number comes before the greater ones. -/
theorem pairwise_ascending (ns : List Nat) : (ascending ns).Pairwise (· < ·) := by
  have ordered : (ascending ns).Pairwise fun a b => decide (a ≤ b) ∧ a ≠ b :=
    Ascending.pairwise_ofList (fun a b c => by simpa using Nat.le_trans)
      (fun a b => by simpa using Nat.le_total a b) ns
  exact ordered.imp fun ⟨h, h'⟩ => Nat.lt_of_le_of_ne (by simpa using h) h'

/-- Whether any line is flagged. -/
def hasImport (a : Analysis) : Bool :=
  !a.lines.isEmpty

/-- The distinct bound names in ascending order. -/
def boundNames (a : Analysis) : List Text :=
  Text.sortDistinct (a.bindings.map (·.name))

theorem mem_boundNames {a : Analysis} {name : Text} :
    name ∈ a.boundNames ↔ name ∈ a.bindings.map (·.name) := by
  simp [boundNames, Text.sortDistinct]

theorem pairwise_boundNames (a : Analysis) :
    a.boundNames.Pairwise fun name name' => Text.precedes name name' ∧ name ≠ name' :=
  Ascending.pairwise_ofList Text.precedes_trans Text.precedes_total _

/-- The bindings of the statements that import from a library. -/
def bindingsOf (statements : List Statement) : List Binding :=
  statements.flatMap fun s => s.names.map fun name => ⟨name, s.source, s.line⟩

/-- The analysis that follows from the statements of a document. -/
def ofStatements (d : Document) (statements : List Statement) : Analysis :=
  let external := statements.filter (·.isExternal)
  let statementLines := ascending (external.map (·.line))
  let bindings := bindingsOf external
  { lines := ascending (statementLines ++ Usage.lines d (bindings.map (·.name)))
    statementLines
    bindings }

section

variable {d : Document} {statements : List Statement} {n : Nat}

theorem mem_statementLines :
    n ∈ (ofStatements d statements).statementLines ↔
      ∃ s ∈ statements, s.isExternal ∧ s.line = n := by
  simp [ofStatements, mem_ascending, and_assoc]

theorem mem_lines_of_mem_statementLines (h : n ∈ (ofStatements d statements).statementLines) :
    n ∈ (ofStatements d statements).lines :=
  mem_ascending.mpr (List.mem_append_left _ h)

/-- A line is flagged for a statement or for a use of a bound name. -/
theorem mem_lines_iff : n ∈ (ofStatements d statements).lines ↔
    n ∈ (ofStatements d statements).statementLines ∨
      n ∈ Usage.lines d ((ofStatements d statements).bindings.map (·.name)) :=
  mem_ascending.trans List.mem_append

/-- When every statement stands on one line, that line is the only one, if there is a library import
at all. -/
theorem statementLines_eq_singleton (h : ∀ s ∈ statements, s.line = n) :
    (ofStatements d statements).statementLines = [n] ↔ ∃ s ∈ statements, s.isExternal := by
  constructor
  · intro hlines
    have hmem : n ∈ (ofStatements d statements).statementLines := by simp [hlines]
    obtain ⟨s, hs, hexternal, -⟩ := mem_statementLines.mp hmem
    exact ⟨s, hs, hexternal⟩
  · rintro ⟨s, hs, hexternal⟩
    have hmem : n ∈ (ofStatements d statements).statementLines :=
      mem_statementLines.mpr ⟨s, hs, hexternal, h s hs⟩
    have only : ∀ k ∈ (ofStatements d statements).statementLines, k = n := by
      intro k hk
      obtain ⟨s, hs, -, rfl⟩ := mem_statementLines.mp hk
      exact h s hs
    have ordered : (ofStatements d statements).statementLines.Pairwise (· < ·) :=
      pairwise_ascending _
    rcases hlines : (ofStatements d statements).statementLines with _ | ⟨k, _ | ⟨k', ks⟩⟩
    · simp [hlines] at hmem
    · rw [hlines] at only
      rw [only k (by simp)]
    · rw [hlines] at only ordered
      have hlt : k < k' := List.rel_of_pairwise_cons ordered (by simp)
      have hk := only k (by simp)
      have hk' := only k' (by simp)
      omega

end

/-- The analysis of a document. -/
def ofDocument (d : Document) : Analysis :=
  match Grammar.ofTag? d.language with
  | none => {}
  | some g => ofStatements d (g.recognize d)

theorem ofDocument_eq {d : Document} {g : Grammar} (h : Grammar.ofTag? d.language = some g) :
    ofDocument d = ofStatements d (g.recognize d) := by
  rw [ofDocument, h]

end Analysis

end Kudos
