import Mathlib
import Kudos.Detector
import Kudos.Proofs.Statement.PythonJoined

/-!
# Carriage returns in Python documents

A carriage return before every newline of a Python text changes nothing that is read from it but the
offsets (`ofDocument_withReturns`). The lines are stripped of it. The statement pattern runs over the
raw text, but it reads no carriage return and a word ends there as it does at the end of a line, so on
every line it matches what it matches without. The texts are followed line by line: a line alone has the
same matches with the return as without, and what is found in a text is put together from its first line
and the rest.
-/

namespace Kudos

variable {t x y : Text} {d e : Document} {ss ss' : List Statement}

/-! ## Lines that end with carriage returns -/

namespace Text

/-- The text with a carriage return before every newline. -/
def withReturns (t : Text) : Text :=
  t.flatMap fun c => if c = '\n' then ['\r', '\n'] else [c]

theorem withReturns_of_not_mem (h : '\n' ∉ t) : withReturns t = t := by
  induction t with
  | nil => rfl
  | cons c t ih =>
    have hc : c ≠ '\n' := fun hc => h (by simp [hc])
    rw [withReturns, List.flatMap_cons, if_neg hc]
    exact congrArg (c :: ·) (ih fun ht => h (List.mem_cons_of_mem c ht))

/-- The carriage return ends the first line, and the others follow. -/
theorem withReturns_line (hx : '\n' ∉ x) (y : Text) :
    withReturns (x ++ '\n' :: y) = (x ++ ['\r']) ++ '\n' :: withReturns y := by
  have line : withReturns x = x := withReturns_of_not_mem hx
  unfold withReturns at *
  rw [List.flatMap_append, line, List.flatMap_cons, if_pos rfl]
  simp

/-- Induction on the lines of a text: the last line alone, and a line before others. -/
theorem lines_induction {motive : Text → Prop} (last : ∀ x, '\n' ∉ x → motive x)
    (line : ∀ x y, '\n' ∉ x → motive y → motive (x ++ '\n' :: y)) (t : Text) : motive t := by
  induction hn : t.length using Nat.strong_induction_on generalizing t with
  | _ n ih =>
    subst hn
    by_cases hmem : '\n' ∈ t
    · obtain ⟨x, y, rfl, hx⟩ := List.eq_append_cons_of_mem hmem
      exact line x y hx (ih y.length (by simp; omega) y rfl)
    · exact last t hmem

end Text

open Text

theorem Document.dropCarriageReturn_concat (x : Text) :
    dropCarriageReturn (x ++ ['\r']) = x := by
  simp [dropCarriageReturn]

theorem Document.dropCarriageReturn_of_not_mem (h : '\r' ∉ x) : dropCarriageReturn x = x := by
  rw [dropCarriageReturn]
  split
  case h_1 hlast => exact absurd (List.mem_of_getLast? hlast) h
  case h_2 => rfl

/-- The lines are stripped of the carriage returns. -/
theorem Document.lines_withReturns (h : '\r' ∉ d.text) (he : e.text = withReturns d.text) :
    e.lines = d.lines := by
  unfold Document.lines
  rw [he]
  generalize d.text = t at h
  induction t using lines_induction with
  | last x hx => rw [withReturns_of_not_mem hx]
  | line x y hx ih =>
    have hreturn : '\n' ∉ x ++ ['\r'] := by simp [hx]
    rw [List.mem_append, List.mem_cons] at h
    push Not at h
    rw [withReturns_line hx, splitOn_append_cons hreturn, splitOn_append_cons hx, List.map_cons,
      List.map_cons, dropCarriageReturn_concat, dropCarriageReturn_of_not_mem h.1, ih h.2.2]

/-! ## Statements without their offsets -/

/-- The statement with nothing said of its offset. -/
def Statement.placeless (s : Statement) : Statement :=
  { s with offset := 0 }

/-- The analysis follows from the lines of the document and the statements without their offsets. -/
theorem Analysis.ofStatements_congr (hlines : e.lines = d.lines)
    (h : ss'.map Statement.placeless = ss.map Statement.placeless) :
    ofStatements e ss' = ofStatements d ss := by
  have forget : ∀ (d : Document) (ss : List Statement),
      ofStatements d ss = ofStatements d (ss.map Statement.placeless) := by
    intro d ss
    simp only [ofStatements, bindingsOf, List.filter_map, List.map_map, List.flatMap_map]
    rfl
  have uses : Usage.lines e = Usage.lines d := by
    funext names
    rw [Usage.lines, Usage.lines, hlines]
  rw [forget e, forget d, h, ofStatements, ofStatements, uses]

namespace Python

open Pattern Analysis

/-- A carriage return behind the last line has no part in a match. -/
theorem found_concat_return (x : Text) : statement.found (x ++ ['\r']) = statement.found x :=
  found_concat_stop readsOnly_statement_ne_return (by simp) (by decide) x

theorem recognize_concat_return (x : Text) :
    recognize (document (x ++ ['\r'])) = recognize (document x) := by
  rw [recognize_eq_map, recognize_eq_map]
  refine (congrArg _ (found_concat_return x)).trans (List.map_congr_left fun m hm => ?_)
  have line : (document (x ++ ['\r'])).lineOfOffset m.start = (document x).lineOfOffset m.start := by
    rw [Document.lineOfOffset_eq_count, Document.lineOfOffset_eq_count, Int.toNat_natCast]
    exact congrArg _ (List.take_append_of_le_length (start_le_of_mem_found hm))
  rw [statementOf, statementOf, line]

/-- The statements are the same further down, wherever in the text they start. -/
theorem recognize_withReturns (h : '\r' ∉ t) :
    (recognize (document (withReturns t))).map Statement.placeless =
      (recognize (document t)).map Statement.placeless := by
  have lower : ∀ (ss : List Statement) (n k : Nat),
      (ss.map (Statement.shift n k)).map Statement.placeless =
        (ss.map Statement.placeless).map (Statement.shift n 0) := by
    intro ss n k
    rw [List.map_map, List.map_map]
    rfl
  induction t using lines_induction with
  | last x hx => rw [withReturns_of_not_mem hx]
  | line x y hx ih =>
    rw [List.mem_append, List.mem_cons] at h
    push Not at h
    have count : (document (x ++ ['\r'])).lineCount = (document x).lineCount := by
      rw [Document.lineCount_eq_count, Document.lineCount_eq_count]
      simp [document]
    have plain : recognize (document (x ++ '\n' :: y)) = _ :=
      recognize_joined (d := document x) (e := document y) rfl
    have returned : recognize (document ((x ++ ['\r']) ++ '\n' :: withReturns y)) = _ :=
      recognize_joined (d := document (x ++ ['\r'])) (e := document (withReturns y)) rfl
    rw [withReturns_line hx, returned, plain, List.map_append, List.map_append, lower, lower,
      recognize_concat_return, count, ih h.2.2]

theorem listed_withReturns (t : Text) : listed (withReturns t) = listed t := by
  induction t using lines_induction with
  | last x hx => rw [withReturns_of_not_mem hx]
  | line x y hx ih =>
    have line : listed (x ++ ['\r']) = listed x := by
      rw [listed, found_concat_return, listed]
    rw [withReturns_line hx, listed_append_newline, listed_append_newline, line, ih]

/-- A Python text and the same text with a carriage return before every newline have the same lines,
the same analysis and the same list of statements. -/
theorem ofDocument_withReturns (t : Text) (h : '\r' ∉ t) :
    let plain := document t
    let returned := document (withReturns t)
    returned.lineCount = plain.lineCount ∧ returned.lines = plain.lines ∧
      ofDocument returned = ofDocument plain ∧
      Detector.statements returned = Detector.statements plain := by
  intro plain returned
  have lines : returned.lines = plain.lines := Document.lines_withReturns h rfl
  refine ⟨congrArg List.length lines, lines, ?_, listed_withReturns t⟩
  rw [ofDocument_document, ofDocument_document]
  exact ofStatements_congr lines (recognize_withReturns h)

/-- Neither the line, nor the bound name, nor the listed statement holds the carriage return. -/
theorem listed_before_return :
    let plain := "import os\nos.getcwd()".toList
    let returned := "import os\r\nos.getcwd()".toList
    '\r' ∉ plain ∧ withReturns plain = returned ∧
      (document returned).lines = ["import os".toList, "os.getcwd()".toList] ∧
      (ofDocument (document returned)).boundNames = ["os".toList] ∧
      Detector.statements (document returned) = ["import os".toList] := by
  intro plain returned
  have noReturn : '\r' ∉ plain := by decide
  have returns : withReturns plain = returned := by decide
  obtain ⟨-, lines, analysis, statements⟩ := ofDocument_withReturns plain noReturn
  rw [returns] at lines analysis statements
  refine ⟨noReturn, returns, lines.trans (by decide), ?_, statements.trans (by decide +kernel)⟩
  rw [analysis]
  decide +kernel

end Python

end Kudos
