import Mathlib
import Kudos.Analysis
import Kudos.Keyword
import Kudos.Proofs.Text.Basic
import Kudos.Proofs.Usage

/-!
# Every import statement holds a keyword

The test for the words `import` and `require` knows nothing of the statement patterns. It never misses
a document with a library import, because each of the patterns demands one of the words
(`mentionsImports_of_hasImport`).
-/

namespace Kudos

variable {a : Pattern} {pre run rest t w : Text} {gs : List Text} {m : Pattern.Match} {d : Document}

namespace Document

theorem mentionsImports_iff :
    d.mentionsImports ↔ "import".toList <:+: d.text ∨ "require".toList <:+: d.text := by
  simp only [mentionsImports, importWords, List.any_cons, List.any_nil, Bool.or_false,
    Bool.or_eq_true, Text.occursIn_iff_infix]

end Document

namespace Pattern

/-- Whether everything that a pattern covers holds a text, as one of its literal parts does. -/
def demands (w : Text) : Pattern → Bool
  | .literal t => Text.occursIn w t
  | .andThen a b => a.demands w || b.demands w
  | .orElse a b => a.demands w && b.demands w
  | .group a => a.demands w
  | _ => false

theorem Reads.infix_of_demands (h : a.Reads pre run rest gs) (ha : a.demands w) : w <:+: run := by
  induction h with
  | literal => exact Text.occursIn_iff_infix.mp ha
  | andThen _ _ iha ihb =>
    rcases Bool.or_eq_true _ _ |>.mp ha with ha | hb
    · exact (iha ha).trans (List.prefix_append _ _).isInfix
    · exact (ihb hb).trans (List.suffix_append _ _).isInfix
  | left _ ih => exact ih (Bool.and_eq_true _ _ |>.mp ha).1
  | right _ ih => exact ih (Bool.and_eq_true _ _ |>.mp ha).2
  | group _ ih => exact ih ha
  | _ => exact absurd ha (by simp [demands])

/-- A text in which such a pattern is found holds the demanded one. -/
theorem infix_of_mem_found (h : m ∈ a.found t) (ha : a.demands w) : w <:+: t := by
  obtain ⟨x, rest, rfl, -, hreads⟩ := exists_reads_of_mem_found h
  have inMatch := hreads.infix_of_demands ha
  exact inMatch.trans ⟨x, rest, by simp⟩

end Pattern

/-! ## The statements of the two grammars -/

theorem Grammar.mentionsImports_of_mem_recognize {g : Grammar} {s : Statement}
    (h : s ∈ g.recognize d) : d.mentionsImports := by
  rw [Document.mentionsImports_iff]
  cases g with
  | python =>
    obtain ⟨m, hm, -⟩ := List.mem_map.mp h
    exact .inl (Pattern.infix_of_mem_found hm (by decide))
  | script =>
    have hmem := (List.mergeSort_perm _ _).mem_iff.mp h
    rcases List.mem_append.mp hmem with himport | hrequire
    · obtain ⟨m, hm, -⟩ := List.mem_map.mp himport
      exact .inl (Pattern.infix_of_mem_found hm (by decide))
    · obtain ⟨m, hm, -⟩ := List.mem_map.mp hrequire
      exact .inr (Pattern.infix_of_mem_found hm (by decide))

/-- A document in which anything is flagged mentions imports: lines are flagged for a statement, or for
a use of a name that a statement binds. -/
theorem Analysis.mentionsImports_of_hasImport (h : (ofDocument d).hasImport) : d.mentionsImports := by
  unfold ofDocument at h
  split at h
  · exact absurd h (by decide)
  · next g _ =>
    have hexternal : (g.recognize d).filter (·.isExternal) ≠ [] := by
      intro hnone
      have hlines : (ofStatements d (g.recognize d)).lines = [] := by
        have hused : Usage.lines d [] = [] := by
          rw [List.eq_nil_iff_forall_not_mem]
          intro i hi
          obtain ⟨line, -, husedOn⟩ := Usage.mem_lines.mp hi
          simp [Usage.usedOn_iff] at husedOn
        simp [ofStatements, hnone, bindingsOf, hused, ascending, Ascending.ofList]
      simp [hasImport, hlines] at h
    obtain ⟨s, hs⟩ := List.exists_mem_of_ne_nil _ hexternal
    exact Grammar.mentionsImports_of_mem_recognize (List.mem_of_mem_filter hs)

end Kudos
