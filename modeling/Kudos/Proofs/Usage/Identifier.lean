import Mathlib
import Kudos.Proofs.Analysis.WellFormed
import Kudos.Proofs.Statement.ScriptNames

/-!
# Uses of identifiers with a dollar sign

The names of scripts may hold `$`, which is no word character. The scan asks for the edge of a word
before a name, so what it flags is not an identifier that is a bound name, but one that ends with a bound
name behind an edge (`mem_lines_iff_endsIdentifier`). The two differ in both directions: at the start of
an identifier there is no edge before `$`, and behind a `$` there is an edge inside an identifier. On
lines without `$` they are the same.
-/

namespace Kudos.Usage

open Text Pattern

variable {names : List Text} {name line before behind run x y : Text} {d : Document} {i : Nat}

/-- Whether `run` is one of the identifiers of the line `before ++ run ++ behind`: a run of word
characters and `$` that cannot be extended on either side. -/
def IsIdentifier (before run behind : Text) : Prop :=
  run ≠ [] ∧ (∀ c ∈ run, Script.isNameChar c) ∧ (∀ c ∈ before.getLast?, ¬ Script.isNameChar c) ∧
    ∀ c ∈ behind.head?, ¬ Script.isNameChar c

/-- Whether some identifier of a line is one of the names and is called or has a member read. -/
def UsesIdentifier (names : List Text) (line : Text) : Prop :=
  ∃ before run behind, line = before ++ run ++ behind ∧ IsIdentifier before run behind ∧ run ∈ names ∧
    MakesUse behind

/-- Whether some identifier of a line ends with one of the names, with the edge of a word before the name,
and is called or has a member read. -/
def EndsIdentifier (names : List Text) (line : Text) : Prop :=
  ∃ before start name behind, line = before ++ (start ++ name) ++ behind ∧
    IsIdentifier before (start ++ name) behind ∧ name ∈ names ∧ EdgeBetween start name ∧ MakesUse behind

/-! ## Edges in identifiers -/

theorem not_isWord_of_not_isNameChar {c : Char} (h : ¬ Script.isNameChar c) : ¬ isWord c := by
  intro hc
  exact h (by simp [Script.isNameChar, hc])

theorem MakesUse.not_isNameChar (h : MakesUse behind) : ∀ c ∈ behind.head?, ¬ Script.isNameChar c := by
  obtain ⟨t, rfl⟩ | ⟨c, t, rfl, -⟩ := h
  · simpa using (by decide : Script.isNameChar '(' = false)
  · simpa using (by decide : Script.isNameChar '.' = false)

/-- Whether there is an edge before a name depends on what stands before it in its identifier only. -/
theorem edgeBetween_append (hname : name ≠ []) (hbefore : ∀ c ∈ before.getLast?, ¬ isWord c) :
    EdgeBetween (before ++ x) (name ++ behind) ↔ EdgeBetween x name := by
  obtain ⟨c, t, rfl⟩ := List.exists_cons_of_ne_nil hname
  have left : (before ++ x).getLast?.any isWord = x.getLast?.any isWord := by
    rcases List.eq_nil_or_concat x with rfl | ⟨x, e, rfl⟩
    · cases hlast : before.getLast? with
      | none => simp [hlast]
      | some e =>
        have := hbefore e hlast
        simpa [hlast] using this
    · rw [List.concat_eq_append, ← List.append_assoc, List.getLast?_concat, List.getLast?_concat]
  rw [EdgeBetween, EdgeBetween, left]
  rfl

/-- A name of identifier characters is used where an identifier ends with it behind an edge. -/
theorem uses_iff_of_isNameChar (hne : name ≠ []) (hname : ∀ c ∈ name, Script.isNameChar c) :
    Uses name line ↔ ∃ before start behind, line = before ++ (start ++ name) ++ behind ∧
      IsIdentifier before (start ++ name) behind ∧ EdgeBetween start name ∧ MakesUse behind := by
  constructor
  · rintro ⟨front, behind, rfl, hedge, huse⟩
    obtain ⟨before, start, rfl, hstart, hbefore⟩ := exists_last_run Script.isNameChar front
    have hword : ∀ c ∈ before.getLast?, ¬ isWord c :=
      fun c hc => not_isWord_of_not_isNameChar (hbefore c hc)
    refine ⟨before, start, behind, by simp, ⟨by simp [hne], ?_, hbefore, huse.not_isNameChar⟩,
      (edgeBetween_append hne hword).mp hedge, huse⟩
    intro c hc
    rcases List.mem_append.mp hc with hc | hc
    · exact hstart c hc
    · exact hname c hc
  · rintro ⟨before, start, behind, rfl, ⟨-, -, hbefore, -⟩, hedge, huse⟩
    have hword : ∀ c ∈ before.getLast?, ¬ isWord c :=
      fun c hc => not_isWord_of_not_isNameChar (hbefore c hc)
    exact ⟨before ++ start, behind, by simp, (edgeBetween_append hne hword).mpr hedge, huse⟩

/-- Without `$` an identifier is a word, and there is no edge inside it. -/
theorem endsIdentifier_iff (hdollar : '$' ∉ line) (hnames : ∀ name ∈ names, name ≠ []) :
    EndsIdentifier names line ↔ UsesIdentifier names line := by
  have word : ∀ c, c ∈ line → Script.isNameChar c → isWord c := by
    intro c hc hname
    rcases Bool.or_eq_true _ _ |>.mp hname with hword | hname
    · exact hword
    · obtain rfl : c = '$' := by simpa using hname
      exact absurd hc hdollar
  constructor
  · rintro ⟨before, start, name, behind, rfl, hrun, hname, hedge, huse⟩
    have words : ∀ c ∈ start ++ name, isWord c :=
      fun c hc => word c (List.mem_append_left _ (List.mem_append_right _ hc)) (hrun.2.1 c hc)
    obtain ⟨c, t, rfl⟩ := List.exists_cons_of_ne_nil (hnames name hname)
    rcases List.eq_nil_or_concat start with rfl | ⟨u, e, rfl⟩
    · exact ⟨before, c :: t, behind, by simp, hrun, hname, huse⟩
    · have he : isWord e := words e (by simp)
      have hc : isWord c := words c (by simp)
      exact absurd hedge (by simp [EdgeBetween, he, hc])
  · rintro ⟨before, run, behind, rfl, hrun, hmem, huse⟩
    obtain ⟨c, t, rfl⟩ := List.exists_cons_of_ne_nil hrun.1
    have hc : isWord c := word c (by simp) (hrun.2.1 c (by simp))
    exact ⟨before, [], c :: t, behind, by simp, hrun, hmem, by simp [EdgeBetween, hc], huse⟩

/-! ## Flagged lines of scripts -/

/-- When the bound names of a script are made of word characters and `$`, a line other than a statement
line is flagged when an identifier on it ends with a bound name behind an edge. If the line holds no `$`,
the identifier is that name. -/
theorem mem_lines_iff_endsIdentifier (hlanguage : d.language = "javascript" ∨ d.language = "typescript")
    (hnames : ∀ name ∈ (Analysis.ofDocument d).boundNames, ∀ c ∈ name, Script.isNameChar c)
    (hi : i ∉ (Analysis.ofDocument d).statementLines) :
    (i ∈ (Analysis.ofDocument d).lines ↔
      ∃ line, d.lines[i]? = some line ∧ EndsIdentifier (Analysis.ofDocument d).boundNames line) ∧
    ((∀ line, d.lines[i]? = some line → '$' ∉ line) → (i ∈ (Analysis.ofDocument d).lines ↔
      ∃ line, d.lines[i]? = some line ∧ UsesIdentifier (Analysis.ofDocument d).boundNames line)) := by
  have grammar : Grammar.ofTag? d.language = some .script := Grammar.ofTag?_script hlanguage
  have analysis : Analysis.ofDocument d = Analysis.ofStatements d (Grammar.script.recognize d) :=
    Analysis.ofDocument_eq grammar
  have nonempty : ∀ name ∈ (Analysis.ofDocument d).boundNames, name ≠ [] := by
    intro name hname
    rw [analysis] at hname
    obtain ⟨b, hb, rfl⟩ := List.mem_map.mp (Analysis.mem_boundNames.mp hname)
    exact ((Analysis.wellFormed_ofStatements grammar).isName b hb).ne_nil
  have flagged : i ∈ (Analysis.ofDocument d).lines ↔
      ∃ line, d.lines[i]? = some line ∧ EndsIdentifier (Analysis.ofDocument d).boundNames line := by
    rw [analysis] at hi hnames nonempty ⊢
    rw [Analysis.mem_lines_iff, or_iff_right hi, mem_lines]
    refine exists_congr fun line => and_congr_right fun _ => ?_
    rw [usedOn_iff]
    constructor
    · rintro ⟨name, hname, hne, huses⟩
      have hmem := Analysis.mem_boundNames.mpr hname
      obtain ⟨before, start, behind, hline, hrun, hedge, huse⟩ :=
        (uses_iff_of_isNameChar hne (hnames name hmem)).mp huses
      exact ⟨before, start, name, behind, hline, hrun, hmem, hedge, huse⟩
    · rintro ⟨before, start, name, behind, hline, hrun, hmem, hedge, huse⟩
      refine ⟨name, Analysis.mem_boundNames.mp hmem, nonempty name hmem, ?_⟩
      exact (uses_iff_of_isNameChar (nonempty name hmem) (hnames name hmem)).mpr
        ⟨before, start, behind, hline, hrun, hedge, huse⟩
  refine ⟨flagged, fun hdollar => flagged.trans ?_⟩
  exact exists_congr fun line => and_congr_right fun hline =>
    endsIdentifier_iff (hdollar line hline) nonempty

/-- A script that binds `$`, with another line. -/
def withDollar (line : String) : Document :=
  { text := "import $ from 'jquery'\n".toList ++ line.toList, language := "javascript" }

theorem boundNames_x_dollar : (Analysis.ofDocument (withDollar "x$(1)")).boundNames = [['$']] := by
  decide +kernel

theorem isNameChar_of_mem_dollar : ∀ name ∈ [['$']], ∀ c ∈ name, Script.isNameChar c := by
  simpa using by decide

/-- Inside the identifier `x$` there is an edge before the name `$`. -/
theorem mem_lines_behind_edge : 1 ∈ (Analysis.ofDocument (withDollar "x$(1)")).lines := by
  have flagged := (mem_lines_iff_endsIdentifier (i := 1) (d := withDollar "x$(1)") (.inl rfl)
    (by rw [boundNames_x_dollar]; exact isNameChar_of_mem_dollar) (by decide +kernel)).1
  rw [boundNames_x_dollar] at flagged
  refine flagged.mpr ⟨"x$(1)".toList, by decide +kernel, [], ['x'], ['$'], "(1)".toList, rfl, ?_,
    by simp, by simp [EdgeBetween]; decide, .inl ⟨_, rfl⟩⟩
  refine ⟨by simp, ?_, by simp, ?_⟩
  · simpa using by decide
  · simpa using by decide

/-- Whether a line of a script, other than a statement line, is flagged exactly when it uses an identifier
that is a bound name. -/
def FlagsIdentifiers (d : Document) (i : Nat) : Prop :=
  (∀ name ∈ (Analysis.ofDocument d).boundNames, ∀ c ∈ name, Script.isNameChar c) →
    i ∉ (Analysis.ofDocument d).statementLines →
      (i ∈ (Analysis.ofDocument d).lines ↔
        ∃ line, d.lines[i]? = some line ∧ UsesIdentifier (Analysis.ofDocument d).boundNames line)

/-- A script that binds `http`, with a member of another identifier. -/
def withHttp : Document :=
  { text := "import http from 'h'\n$http.get()".toList, language := "javascript" }

/-- The identifier `$http` is not the name `http`. -/
theorem not_usesIdentifier_http :
    ¬ UsesIdentifier [['h', 't', 't', 'p']] ['$', 'h', 't', 't', 'p', '.', 'g', 'e', 't', '(', ')'] := by
  rintro ⟨before, run, behind, hline, ⟨-, -, hbefore, -⟩, hmem, -⟩
  obtain rfl := List.mem_singleton.mp hmem
  have later : 'h' ∉ ['t', 't', 'p', '.', 'g', 'e', 't', '(', ')'] := by decide
  rcases before with _ | ⟨c, _ | ⟨c', before⟩⟩
  · simp at hline
  · obtain ⟨rfl, -⟩ := List.cons.inj hline
    exact hbefore '$' (by simp) (by decide)
  · obtain ⟨-, hrest⟩ := List.cons.inj hline
    obtain ⟨-, hrest⟩ := List.cons.inj hrest
    exact later (hrest ▸ by simp)

/-- A call of `$` at the start of a line is not flagged, and a member of `$http` is flagged for the name
`http`. -/
theorem not_flagsIdentifiers_dollar :
    ¬ FlagsIdentifiers (withDollar "$('a')") 1 ∧ ¬ FlagsIdentifiers withHttp 1 := by
  constructor
  · intro h
    have bound : (Analysis.ofDocument (withDollar "$('a')")).boundNames = [['$']] := by decide +kernel
    have missed : 1 ∉ (Analysis.ofDocument (withDollar "$('a')")).lines := by decide +kernel
    have hline : (withDollar "$('a')").lines[1]? = some "$('a')".toList := by decide +kernel
    unfold FlagsIdentifiers at h
    rw [bound] at h
    refine missed ((h isNameChar_of_mem_dollar (by decide +kernel)).mpr ⟨_, hline, ?_⟩)
    refine ⟨[], ['$'], "('a')".toList, rfl, ⟨by simp, ?_, by simp, ?_⟩, by simp, .inl ⟨_, rfl⟩⟩
    · simpa using by decide
    · simpa using by decide
  · intro h
    have bound : (Analysis.ofDocument withHttp).boundNames = [['h', 't', 't', 'p']] := by decide +kernel
    have names : ∀ name ∈ [['h', 't', 't', 'p']], ∀ c ∈ name, Script.isNameChar c := by
      simpa using by decide
    have flagged : 1 ∈ (Analysis.ofDocument withHttp).lines :=
      Analysis.mem_lines_iff.mpr (.inr (by decide +kernel))
    have second : withHttp.lines[1]? =
        some ['$', 'h', 't', 't', 'p', '.', 'g', 'e', 't', '(', ')'] := by decide +kernel
    unfold FlagsIdentifiers at h
    rw [bound] at h
    obtain ⟨line, hline, huses⟩ := (h names (by decide +kernel)).mp flagged
    obtain rfl := Option.some.inj (second.symm.trans hline)
    exact not_usesIdentifier_http huses

end Kudos.Usage
