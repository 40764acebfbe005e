import Mathlib
import Kudos.Proofs.Usage
import Kudos.Proofs.Statement.PythonDocument

/-!
# Imports of module paths

`import a.b as c, d` with paths of several names. The list class holds no dot, so the statement ends
at the first one: it binds the local names of the modules before that dot and the first name of the
path that the dot belongs to (`recognize_paths`). The aliases behind the dot are lost, and with them
the lines that use them (`exists_alias_not_read`).
-/

namespace Kudos.Python

open Text Pattern

variable {d : Document} {i : Nat}

/-! ## Lines with paths -/

/-- The path of a module, which is its names with dots between them. -/
structure ModulePath where
  first : Name
  /-- The names behind the dots. -/
  others : List Name

/-- The path as written. -/
def ModulePath.text (p : ModulePath) : Text :=
  p.first.text ++ p.others.flatMap fun n => '.' :: n.text

/-- An imported module with an alias, if it has one. -/
structure ModuleItem where
  path : ModulePath
  renamed : Option Name

/-- The alias with its keyword. -/
def ModuleItem.suffix (m : ModuleItem) : Text :=
  m.renamed.elim [] fun n => ' ' :: ("as".toList ++ ' ' :: n.text)

/-- The module as written. -/
def ModuleItem.text (m : ModuleItem) : Text :=
  m.path.text ++ m.suffix

/-- The local name, if the path has no dot. -/
def ModuleItem.bound (m : ModuleItem) : Text :=
  (m.renamed.getD m.path.first).text

/-- A line that imports modules, with a comma and a space between them. -/
structure ModuleLine where
  first : ModuleItem
  others : List ModuleItem

/-- The line as written. -/
def ModuleLine.text (l : ModuleLine) : Text :=
  "import".toList ++ ' ' :: (l.first.text ++ l.others.flatMap fun m => ',' :: ' ' :: m.text)

/-- The names up to the first dot: the local names of the modules before it, and the first name of the
path with the dot. -/
def namesToDot : List ModuleItem → List Text
  | [] => []
  | m :: ms => if m.path.others.isEmpty then m.bound :: namesToDot ms else [m.path.first.text]

/-- The names that the line binds. -/
def ModuleLine.names (l : ModuleLine) : List Text :=
  namesToDot (l.first :: l.others)

/-! ## The part up to the first dot -/

/-- The alias of a module, written with one space on each side of the keyword. -/
def ModuleItem.alias (m : ModuleItem) : Option (Run1 (· == ' ') × Run1 (· == ' ') × Name) :=
  m.renamed.map fun n => (.space space_beq_space, .space space_beq_space, n)

/-- What is read of a module: all of it if its path has no dot, and else the name before the dot. -/
def ModuleItem.entry (m : ModuleItem) : Entry :=
  if m.path.others.isEmpty then ⟨m.path.first, m.alias⟩ else ⟨m.path.first, none⟩

theorem text_of_plain {m : ModuleItem} (h : m.path.others = []) : m.text = m.entry.text := by
  have plain : m.path.text = m.path.first.text := by simp [ModulePath.text, h]
  rw [ModuleItem.text, plain, ModuleItem.entry, h]
  cases hrenamed : m.renamed <;> simp [ModuleItem.suffix, ModuleItem.alias, Entry.text, Run1.space, hrenamed]

theorem bound_of_plain {m : ModuleItem} (h : m.path.others = []) : m.bound = m.entry.bound := by
  rw [ModuleItem.bound, ModuleItem.entry, h]
  cases hrenamed : m.renamed <;> simp [ModuleItem.alias, Entry.bound, hrenamed]

theorem text_of_dotted {m : ModuleItem} (h : m.path.others ≠ []) :
    ∃ t, m.text = m.entry.text ++ '.' :: t ∧ m.entry.bound = m.path.first.text := by
  obtain ⟨n, ns, hothers⟩ := List.exists_cons_of_ne_nil h
  refine ⟨n.text ++ ns.flatMap (fun n => '.' :: n.text) ++ m.suffix, ?_, ?_⟩
  · simp [ModuleItem.text, ModulePath.text, ModuleItem.entry, Entry.text, hothers]
  · simp [ModuleItem.entry, Entry.bound, hothers]

/-- Up to the first dot a list of modules is a list of entries, whose local names are the names up to
the dot. -/
theorem exists_entries (m : ModuleItem) (ms : List ModuleItem) :
    ∃ (e : Entry) (fs : List Follower) (rest : Text),
      m.text ++ (ms.flatMap fun m => ',' :: ' ' :: m.text) =
          e.text ++ fs.flatMap Follower.text ++ rest ∧
        namesToDot (m :: ms) = e.bound :: fs.map (·.entry.bound) ∧ ∀ c ∈ rest.head?, c = '.' := by
  induction ms generalizing m with
  | nil =>
    by_cases h : m.path.others = []
    · exact ⟨m.entry, [], [], by simp [text_of_plain h], by simp [namesToDot, h, bound_of_plain h],
        by simp⟩
    · obtain ⟨t, htext, hbound⟩ := text_of_dotted h
      exact ⟨m.entry, [], '.' :: t, by simp [htext], by simp [namesToDot, h, hbound], by simp⟩
  | cons next ms ih =>
    by_cases h : m.path.others = []
    · obtain ⟨e, fs, rest, htext, hnames, hrest⟩ := ih next
      have names : namesToDot (m :: next :: ms) = m.bound :: namesToDot (next :: ms) := by
        rw [namesToDot, h]
        rfl
      refine ⟨m.entry, ⟨.of [], .of [' '], e⟩ :: fs, rest, ?_, ?_, hrest⟩
      · rw [List.flatMap_cons, List.cons_append, List.cons_append, htext, text_of_plain h]
        simp [Follower.text, Run.of]
      · rw [names, hnames, bound_of_plain h, List.map_cons]
    · obtain ⟨t, htext, hbound⟩ := text_of_dotted h
      exact ⟨m.entry, [], '.' :: (t ++ (next :: ms).flatMap fun m => ',' :: ' ' :: m.text),
        by simp [htext], by simp [namesToDot, h, hbound], by simp⟩

/-- The line with an import of entries, with one space behind the keyword. -/
def entriesLine (first : Entry) (others : List Follower) : ImportLine where
  indent := .of [] List.all_nil
  origin := none
  gap := .space isIndent_space
  first := first
  others := others
  trailing := .of [] List.all_nil
  remark := []
  remark_head := by simp

theorem statement_entriesLine (e : Entry) (fs : List Follower) :
    (entriesLine e fs).statement = "import".toList ++ ' ' :: (e.text ++ fs.flatMap Follower.text) := by
  simp [entriesLine, ImportLine.statement, ImportLine.clause, ImportLine.list, Run1.space]

theorem dot_not_mem_statement (e : Entry) (fs : List Follower) : '.' ∉ (entriesLine e fs).statement := by
  have list : '.' ∉ e.text ++ fs.flatMap Follower.text := fun h =>
    absurd (isListChar_of_mem_list (entriesLine e fs) _ h) (by decide)
  rw [statement_entriesLine]
  simpa using list

/-- The line starts with a written statement, which ends at the first dot. -/
theorem ModuleLine.exists_statement (l : ModuleLine) :
    ∃ (e : Entry) (fs : List Follower) (rest : Text), l.text = (entriesLine e fs).statement ++ rest ∧
      (entriesLine e fs).names = l.names ∧ ∀ c ∈ rest.head?, c = '.' := by
  obtain ⟨e, fs, rest, htext, hnames, hrest⟩ := exists_entries l.first l.others
  refine ⟨e, fs, rest, ?_, hnames.symm, hrest⟩
  calc l.text = "import".toList ++ ' ' :: (e.text ++ fs.flatMap Follower.text ++ rest) :=
        congrArg (fun t => "import".toList ++ ' ' :: t) htext
    _ = (entriesLine e fs).statement ++ rest := by
        rw [statement_entriesLine, List.append_assoc "import".toList, List.cons_append]

/-! ## The statement of a line with paths -/

/-- Whether the lines on which a name is a word that is called or has a member read are flagged. -/
def FlagsUsesOf (d : Document) (name : Text) : Prop :=
  ∀ j before behind, d.lines[j]? = some (before ++ name ++ behind) → Usage.IsWord before name behind →
    Usage.MakesUse behind → j ∈ (Analysis.ofDocument d).lines

theorem flagsUsesOf_of_mem {b : Binding} (hlanguage : d.language = "python")
    (hb : b ∈ (Analysis.ofDocument d).bindings) : FlagsUsesOf d b.name := by
  intro j before behind hline hword huse
  rw [ofDocument_eq_of_python hlanguage] at hb ⊢
  refine Analysis.mem_lines_iff.mpr (.inr (Usage.mem_lines.mpr ⟨_, hline, ?_⟩))
  exact Usage.usedOn_of_isWord (List.mem_map_of_mem hb) hword huse

theorem closes_dot {rest : Text} (h : ∀ c ∈ rest.head?, c = '.') : Closes rest :=
  fun c hc => Or.inr (Or.inr (Or.inr (h c hc)))

/-- A line that imports paths, among whatever other lines, has exactly one statement. It is the line up to
its first dot, and binds the local names of the modules before that dot and the first name of the path with
the dot; the lines that use these names are flagged. -/
theorem recognize_paths (l : ModuleLine) (hlanguage : d.language = "python")
    (hline : d.lines[i]? = some l.text) :
    (∃ s, (Grammar.python.recognize d).filter (fun s => s.line = i) = [s] ∧
        s.text = l.text.takeWhile (· ≠ '.') ∧ s.source = [] ∧ s.names = l.names) ∧
      (Analysis.ofDocument d).bindings.filter (fun b => b.line = i) =
        (l.names.map fun name => ⟨name, [], i⟩) ∧
      i ∈ (Analysis.ofDocument d).statementLines ∧
      ∀ name ∈ l.names, FlagsUsesOf d name := by
  obtain ⟨before, ending, behind, htext, rfl, hbefore, -, hending, hbehind⟩ :=
    Document.exists_of_getElem?_lines hline
  obtain ⟨e, fs, rest, hsplit, hnames, hrest⟩ := l.exists_statement
  have split : d.text = before ++ ([] ++ (entriesLine e fs).statement) ++
      ([] ++ (rest ++ (ending ++ behind))) := by
    rw [htext, hsplit]
    simp
  have only := recognize_of_line (entriesLine e fs) hbefore
    ((closes_dot hrest).append hending hbehind) split
  have cut : (entriesLine e fs).statement = l.text.takeWhile (· ≠ '.') := by
    have inside : ∀ c ∈ (entriesLine e fs).statement, decide (c ≠ '.') := by
      intro c hc
      exact decide_eq_true fun h => dot_not_mem_statement e fs (h ▸ hc)
    have outside : rest.takeWhile (· ≠ '.') = [] := by
      cases rest with
      | nil => rfl
      | cons c rest => simp [hrest c (by simp)]
    rw [hsplit, List.takeWhile_append_of_pos inside, outside, List.append_nil]
  obtain ⟨bindings, statementLine⟩ := ofDocument_of_only hlanguage only
  have source : (entriesLine e fs).source = [] := rfl
  rw [hnames, source] at bindings
  refine ⟨⟨_, only, cut, source, hnames⟩, bindings, statementLine, fun name hname => ?_⟩
  have mem : (⟨name, [], _⟩ : Binding) ∈ (Analysis.ofDocument d).bindings.filter
      (fun b => b.line = before.count '\n') := bindings ▸ List.mem_map_of_mem hname
  exact flagsUsesOf_of_mem hlanguage (List.mem_of_mem_filter mem)

/-- `os.path as p`. -/
def osPath : ModuleItem where
  path := ⟨⟨.of ['o', 's'], by decide, by decide⟩, [⟨.of ['p', 'a', 't', 'h'], by decide, by decide⟩]⟩
  renamed := some ⟨.of ['p'], by decide, by decide⟩

/-- `import re as r, os.path as p`. -/
def pathLine : ModuleLine where
  first := ⟨⟨⟨.of ['r', 'e'], by decide, by decide⟩, []⟩, some ⟨.of ['r'], by decide, by decide⟩⟩
  others := [osPath]

/-- The alias before the dot is bound and its uses are flagged; of the path the first name is bound. -/
theorem bindings_before_dot :
    let d : Document := { text := "import re as r, os.path as p\nr.sub(1)".toList, language := "python" }
    ((Analysis.ofDocument d).bindings.filter fun b => b.line = 0) =
        [⟨['r'], [], 0⟩, ⟨['o', 's'], [], 0⟩] ∧
      1 ∈ (Analysis.ofDocument d).lines := by
  intro d
  have hline : d.lines[0]? = some pathLine.text := by decide +kernel
  obtain ⟨-, bindings, -, flagged⟩ := recognize_paths pathLine rfl hline
  refine ⟨bindings, flagged ['r'] (by decide) 1 [] ".sub(1)".toList (by decide +kernel) ?_ ?_⟩
  · exact ⟨by simp, by simpa using by decide, by simp, by simpa using by decide⟩
  · exact .inr ⟨'s', "ub(1)".toList, rfl, by decide⟩

/-- Whether the aliases of a line are bound in a document and the lines that use them flagged. -/
def ReadsAliases (d : Document) (l : ModuleLine) : Prop :=
  ∀ m ∈ l.first :: l.others, ∀ n ∈ m.renamed,
    n.text ∈ (Analysis.ofDocument d).boundNames ∧ FlagsUsesOf d n.text

/-- The alias of `import os.path as p` is not bound, and a line that uses it is not flagged. -/
theorem exists_alias_not_read :
    ∃ (d : Document) (l : ModuleLine), d.language = "python" ∧ d.lines[0]? = some l.text ∧
      l.first.path.others ≠ [] ∧ l.first.renamed.map (·.text) = some ['p'] ∧
      d.lines[1]? = some "p.join(1)".toList ∧ (Analysis.ofDocument d).boundNames = [['o', 's']] ∧
      1 ∉ (Analysis.ofDocument d).lines ∧ ¬ ReadsAliases d l := by
  let d : Document := { text := "import os.path as p\np.join(1)".toList, language := "python" }
  have names : (Analysis.ofDocument d).boundNames = [['o', 's']] := by decide +kernel
  refine ⟨d, ⟨osPath, []⟩, rfl, by decide +kernel, by simp [osPath], rfl, by decide +kernel, names,
    by decide +kernel, fun h => ?_⟩
  have bound : ['p'] ∈ (Analysis.ofDocument d).boundNames := (h osPath List.mem_cons_self _ rfl).1
  exact absurd (names ▸ bound) (by decide)

end Kudos.Python
