import Mathlib
import Kudos.Proofs.Analysis
import Kudos.Proofs.Pattern.Junction
import Kudos.Proofs.Statement.PythonDocument

/-!
# Python documents put together

The analysis of two Python texts with a newline between them is put together from those of the two
(`ofDocument_joined`). A statement is matched within one line, so the statements are those of the one
text and, further down, those of the other. The names of both are looked for on all lines: a line that
is flagged in one of the texts stays flagged, and others may join.
-/

namespace Kudos

/-- The statement further down, behind some lines that have some characters. -/
def Statement.shift (lines characters : Nat) (s : Statement) : Statement :=
  { s with line := s.line + lines, offset := s.offset + characters }

/-- The binding further down. -/
def Binding.shift (lines : Nat) (b : Binding) : Binding :=
  { b with line := b.line + lines }

namespace Analysis

variable {ns ms : List Nat} {names names' : List Text} {d e w : Document} {i n : Nat}

/-- A sorted list with the same members is the list in ascending order. -/
theorem ascending_eq (hms : ms.Pairwise (· < ·)) (h : ∀ n, n ∈ ms ↔ n ∈ ns) : ascending ns = ms := by
  have perm : (ascending ns).Perm ms :=
    (List.perm_ext_iff_of_nodup ((pairwise_ascending _).imp ne_of_lt) (hms.imp ne_of_lt)).mpr
      fun n => mem_ascending.trans (h n).symm
  exact perm.eq_of_pairwise (fun m k _ _ => le_antisymm) ((pairwise_ascending _).imp le_of_lt)
    (hms.imp le_of_lt)

/-- Numbers that are followed by greater ones are put in order apart from them. -/
theorem ascending_append (h : ∀ m ∈ ns, ∀ k ∈ ms, m < k) :
    ascending (ns ++ ms) = ascending ns ++ ascending ms := by
  refine ascending_eq ?_ fun n => by simp [mem_ascending]
  exact List.pairwise_append.mpr ⟨pairwise_ascending ns, pairwise_ascending ms,
    fun m hm k hk => h m (mem_ascending.mp hm) k (mem_ascending.mp hk)⟩

theorem ascending_map_add (ns : List Nat) (n : Nat) :
    ascending (ns.map (· + n)) = (ascending ns).map (· + n) := by
  refine ascending_eq ?_ fun m => by simp [mem_ascending]
  exact (pairwise_ascending ns).map _ fun m k hlt => by omega

theorem bindingsOf_append (ss ss' : List Statement) :
    bindingsOf (ss ++ ss') = bindingsOf ss ++ bindingsOf ss' :=
  List.flatMap_append

theorem bindingsOf_map_shift (ss : List Statement) (n k : Nat) :
    bindingsOf (ss.map (Statement.shift n k)) = (bindingsOf ss).map (Binding.shift n) := by
  unfold bindingsOf
  rw [List.flatMap_map, List.map_flatMap]
  refine List.flatMap_congr fun s _ => ?_
  rw [List.map_map]
  rfl

/-- A line that uses one of some names uses one of more names. -/
theorem usedOn_mono (h : ∀ name ∈ names, name ∈ names') {line : Text} (hused : Usage.usedOn names line) :
    Usage.usedOn names' line := by
  obtain ⟨name, hname, huse⟩ := Usage.usedOn_iff.mp hused
  exact Usage.usedOn_iff.mpr ⟨name, h name hname, huse⟩

theorem mem_usageLines_above (hw : w.text = d.text ++ '\n' :: e.text) (h : ∀ name ∈ names, name ∈ names')
    (hi : i ∈ Usage.lines d names) : i ∈ Usage.lines w names' := by
  obtain ⟨line, hline, hused⟩ := Usage.mem_lines.mp hi
  refine Usage.mem_lines.mpr ⟨line, ?_, usedOn_mono h hused⟩
  rw [Document.lines_of_joined hw, List.getElem?_append_left (List.getElem?_eq_some_iff.mp hline).1,
    hline]

theorem mem_usageLines_below (hw : w.text = d.text ++ '\n' :: e.text) (h : ∀ name ∈ names, name ∈ names')
    (hi : i ∈ Usage.lines e names) : i + d.lineCount ∈ Usage.lines w names' := by
  obtain ⟨line, hline, hused⟩ := Usage.mem_lines.mp hi
  refine Usage.mem_lines.mpr ⟨line, ?_, usedOn_mono h hused⟩
  rw [Document.lines_of_joined hw, Nat.add_comm, Document.lineCount,
    List.getElem?_append_right (Nat.le_add_right _ _), Nat.add_sub_cancel_left, hline]

end Analysis

namespace Python

open Text Pattern Analysis

variable {d e w : Document} {i : Nat}

/-- The Python document with a text. -/
def document (t : Text) : Document :=
  { text := t, language := "python" }

theorem ofDocument_document (t : Text) :
    ofDocument (document t) = ofStatements (document t) (recognize (document t)) :=
  ofDocument_eq (g := .python) rfl

/-- The statements of two texts with a newline between them are those of both. -/
theorem recognize_joined (hw : w.text = d.text ++ '\n' :: e.text) :
    recognize w =
      recognize d ++ (recognize e).map (Statement.shift d.lineCount (d.text.length + 1)) := by
  rw [recognize_eq_map, hw, found_append_newline readsOnly_statement, List.map_append, List.map_map,
    recognize_eq_map, recognize_eq_map, List.map_map]
  congr 1
  · refine List.map_congr_left fun m hm => ?_
    have hline : w.lineOfOffset m.start = d.lineOfOffset m.start := by
      rw [Document.lineOfOffset_eq_count, Document.lineOfOffset_eq_count, hw, Int.toNat_natCast,
        List.take_append_of_le_length (start_le_of_mem_found hm)]
    rw [statementOf, statementOf, hline]
  · refine List.map_congr_left fun m _ => ?_
    have hline : w.lineOfOffset ((m.start + (d.text.length + 1) : Nat) : Int) =
        e.lineOfOffset m.start + d.lineCount := by
      have place : m.start + (d.text.length + 1) = d.text.length + (m.start + 1) := by omega
      rw [Document.lineOfOffset_eq_count, Document.lineOfOffset_eq_count, hw, Int.toNat_natCast,
        Int.toNat_natCast, place, List.take_length_add_append, List.take_succ_cons, List.count_append,
        List.count_cons_self, Document.lineCount_eq_count]
      omega
    simp only [Function.comp_apply, statementOf, Match.shift, Statement.shift, hline]

/-- What is listed for two texts with a newline between them is what is listed for both. -/
theorem listed_append_newline (x y : Text) : listed (x ++ '\n' :: y) = listed x ++ listed y := by
  rw [listed, found_append_newline readsOnly_statement, List.map_append, List.map_map]
  rfl

/-- The statements of a document stand on lines of it. -/
theorem line_lt_of_mem_recognize {s : Statement} (h : s ∈ recognize d) : s.line < d.lineCount := by
  obtain ⟨line, hline, -⟩ := exists_line_of_mem_recognize (g := .python) h
  exact (List.getElem?_eq_some_iff.mp hline).1

/-- The analysis of two Python texts with a newline between them is put together from those of the two:
statements and bindings follow each other, those of the second text further down by the lines of the
first one, and no flagged line is lost. -/
theorem ofDocument_joined (x y : Text) :
    let above := document x
    let below := document y
    let whole := document (x ++ '\n' :: y)
    above.lineCount = x.count '\n' + 1 ∧
      listed (x ++ '\n' :: y) = listed x ++ listed y ∧
      (ofDocument whole).bindings =
        (ofDocument above).bindings ++ (ofDocument below).bindings.map (Binding.shift above.lineCount) ∧
      (ofDocument whole).statementLines =
        (ofDocument above).statementLines ++
          (ofDocument below).statementLines.map (· + above.lineCount) ∧
      (ofDocument above).lines ⊆ (ofDocument whole).lines ∧
      (ofDocument below).lines.map (· + above.lineCount) ⊆ (ofDocument whole).lines := by
  intro above below whole
  have joined : whole.text = above.text ++ '\n' :: below.text := rfl
  have statements := recognize_joined joined
  have bindings : (ofDocument whole).bindings =
      (ofDocument above).bindings ++
        (ofDocument below).bindings.map (Binding.shift above.lineCount) := by
    simp only [whole, above, below, ofDocument_document, ofStatements, filter_isExternal_recognize]
    rw [statements, bindingsOf_append, bindingsOf_map_shift]
  have statementLines : (ofDocument whole).statementLines =
      (ofDocument above).statementLines ++
        (ofDocument below).statementLines.map (· + above.lineCount) := by
    simp only [whole, above, below, ofDocument_document, ofStatements, filter_isExternal_recognize]
    rw [statements, List.map_append, List.map_map, ← ascending_map_add, List.map_map, ascending_append]
    · rfl
    · intro m hm k hk
      obtain ⟨s, hs, rfl⟩ := List.mem_map.mp hm
      obtain ⟨s', -, rfl⟩ := List.mem_map.mp hk
      exact Nat.lt_of_lt_of_le (line_lt_of_mem_recognize hs) (Nat.le_add_left _ _)
  refine ⟨Document.lineCount_eq_count above, listed_append_newline x y, bindings, statementLines,
    fun i hi => ?_, fun k hk => ?_⟩
  · simp only [whole, above, ofDocument_document] at hi bindings statementLines ⊢
    refine mem_lines_iff.mpr ((mem_lines_iff.mp hi).imp (fun hi => ?_)
      (mem_usageLines_above joined fun name hname => ?_))
    · rw [statementLines]
      exact List.mem_append_left _ hi
    · rw [bindings, List.map_append]
      exact List.mem_append_left _ hname
  · obtain ⟨i, hi, rfl⟩ := List.mem_map.mp hk
    simp only [whole, below, ofDocument_document] at hi bindings statementLines ⊢
    refine mem_lines_iff.mpr ((mem_lines_iff.mp hi).imp (fun hi => ?_)
      (mem_usageLines_below joined fun name hname => ?_))
    · rw [statementLines]
      exact List.mem_append_right _ (List.mem_map_of_mem hi)
    · rw [bindings, List.map_append, List.map_map]
      exact List.mem_append_right _ hname

end Python

end Kudos
