import Mathlib
import Kudos.Link.Form
import Kudos.Proofs.Json.RoundTrip
import Kudos.Proofs.Link.Percent
import Kudos.Proofs.Text.Basic
import Kudos.Proofs.Text.Utf16

/-!
# Reading links to forms

A link to a form has two parameters, the user and the answers, and the answers are one line as the answer
to one question. Whatever the line is, it is found again behind both encodings.
-/

namespace Kudos.Form

open Text (splitOn)

variable {base user question line v : Text} {c : Char}

theorem proper_answers (question line : Text) : (answers question line).Proper :=
  .object (List.nodup_singleton _) fun f hf => by
    rw [List.mem_singleton.mp hf]
    exact .string _

theorem whole_answers (question line : Text) : (answers question line).Whole :=
  .object fun f hf => by
    rw [List.mem_singleton.mp hf]
    exact .string _

/-- The answers are read from what is written for them. -/
theorem read?_answers (question line : Text) :
    Json.read? ((answers question line).write .compact) = some (answers question line) := by
  rw [Json.read?_write (proper_answers question line), (whole_answers question line).reread_eq]

/-! ## The parts of a link -/

/-- What stands behind the question mark of a link: the parameters with their values. -/
def query (user v : Text) : Text :=
  "userid=".toList ++ user ++ '&' :: ("Q_PopulateResponse=".toList ++ v)

theorem url_eq (base user question line : Text) :
    url base user question line =
      base ++ '?' :: query user (Percent.encode ((answers question line).write .compact)) := by
  show base ++ '?' :: "userid=".toList ++ user ++ '&' :: "Q_PopulateResponse=".toList ++ _ = _
  unfold query
  simp only [List.append_assoc, List.cons_append]

/-- No character that is not a hexadecimal digit is in the user id. -/
theorem not_mem_user (huser : ∀ c ∈ user, (Text.hexValue? c).isSome) (hc : Text.hexValue? c = none) :
    c ∉ user := by
  intro hmem
  have hsome := huser c hmem
  rw [hc] at hsome
  cases hsome

theorem not_mem_query (huser : ∀ c ∈ user, (Text.hexValue? c).isSome) (hv : Percent.Component v)
    (hc : c = '?' ∨ c = '#') : c ∉ query user v := by
  have hcomponent : c ∉ v := by
    rcases hc with rfl | rfl
    · exact hv.not_mem (by decide) (by decide) (by decide)
    · exact hv.not_mem (by decide) (by decide) (by decide)
  have hdigits : c ∉ user := by
    rcases hc with rfl | rfl
    · exact not_mem_user huser rfl
    · exact not_mem_user huser rfl
  have hnames : c ∉ "userid=".toList ∧ c ≠ '&' ∧ c ∉ "Q_PopulateResponse=".toList := by
    rcases hc with rfl | rfl
    · decide
    · decide
  unfold query
  simp only [List.mem_append, List.mem_cons, not_or]
  exact ⟨⟨hnames.1, hdigits⟩, hnames.2.1, hnames.2.2, hcomponent⟩

/-- Cut at its marks the query is two names with their values. -/
theorem splitOn_query (huser : ∀ c ∈ user, (Text.hexValue? c).isSome) (hv : Percent.Component v) :
    (splitOn '&' (query user v)).map (splitOn '=') =
      [["userid".toList, user], ["Q_PopulateResponse".toList, v]] := by
  have hfirst : '&' ∉ "userid=".toList ++ user := by
    rw [List.mem_append, not_or]
    exact ⟨by decide, not_mem_user huser rfl⟩
  have hsecond : '&' ∉ "Q_PopulateResponse=".toList ++ v := by
    rw [List.mem_append, not_or]
    exact ⟨by decide, hv.not_mem (by decide) (by decide) (by decide)⟩
  have named : ∀ name value : Text, '=' ∉ name → '=' ∉ value →
      splitOn '=' (name ++ ['='] ++ value) = [name, value] := by
    intro name value hname hvalue
    rw [List.append_assoc, List.singleton_append, Text.splitOn_append_cons hname, Text.splitOn_of_not_mem hvalue]
  have huserid : "userid=".toList = "userid".toList ++ ['='] := by decide
  have hanswers : "Q_PopulateResponse=".toList = "Q_PopulateResponse".toList ++ ['='] := by decide
  unfold query
  rw [Text.splitOn_append_cons hfirst, Text.splitOn_of_not_mem hsecond, List.map_cons, List.map_singleton,
    huserid, hanswers, named _ _ (by decide) (not_mem_user huser rfl),
    named _ _ (by decide) (hv.not_mem (by decide) (by decide) (by decide))]

/-- A link to a form consists of the address, the user and one component. Cut at its marks it has the two
parameters, and behind both encodings of the second one stands the object with the question and the line. -/
theorem url_decodes (base user question line : Text) (hbase : ∀ c ∈ ['?', '&', '#'], c ∉ base)
    (huser : ∀ c ∈ user, (Text.hexValue? c).isSome) :
    ∃ v query, url base user question line =
        base ++ "?userid=".toList ++ user ++ "&Q_PopulateResponse=".toList ++ v ∧
      Percent.Component v ∧
      splitOn '?' (url base user question line) = [base, query] ∧
      (splitOn '&' query).map (splitOn '=') =
        [["userid".toList, user], ["Q_PopulateResponse".toList, v]] ∧
      '#' ∉ url base user question line ∧
      ∃ json key value, Percent.decode? v = some json ∧ Json.read? json = some (.object [(key, .string value)]) ∧
        Utf16.decode key = question ∧ Utf16.decode value = line := by
  have hv := Percent.component_encode ((answers question line).write .compact)
  have hread := read?_answers question line
  refine ⟨Percent.encode ((answers question line).write .compact),
    query user (Percent.encode ((answers question line).write .compact)), rfl, hv, ?_, splitOn_query huser hv, ?_,
    (answers question line).write .compact, Utf16.encode question, Utf16.encode line, Percent.decode?_encode _,
    hread, Utf16.decode_encode question, Utf16.decode_encode line⟩
  · rw [url_eq, Text.splitOn_append_cons (hbase '?' (by simp)),
      Text.splitOn_of_not_mem (not_mem_query huser hv (.inl rfl))]
  · rw [url_eq, List.mem_append, List.mem_cons, not_or, not_or]
    exact ⟨hbase '#' (by simp), by decide, not_mem_query huser hv (.inr rfl)⟩

/-- A line with marks of both encodings is found again behind the link to the form for a longer note. -/
theorem line_read_from_link :
    ∃ v json key value, url sayMore "0123456789abcdef".toList sayMoreQuestion "import \"é&=%+#🎉\"".toList =
        sayMore ++ "?userid=".toList ++ "0123456789abcdef".toList ++ "&Q_PopulateResponse=".toList ++ v ∧
      Percent.decode? v = some json ∧ Json.read? json = some (.object [(key, .string value)]) ∧
      Utf16.decode key = sayMoreQuestion ∧ Utf16.decode value = "import \"é&=%+#🎉\"".toList := by
  have hmarks : (sayMore.all fun c => c ∉ ['?', '&', '#']) = true := rfl
  have hbase : ∀ c ∈ ['?', '&', '#'], c ∉ sayMore :=
    fun c hc hmem => of_decide_eq_true (List.all_eq_true.mp hmarks c hmem) hc
  obtain ⟨v, -, hurl, -, -, -, -, json, key, value, hdecode, hread, hkey, hvalue⟩ :=
    url_decodes sayMore "0123456789abcdef".toList sayMoreQuestion "import \"é&=%+#🎉\"".toList
      hbase (List.all_eq_true.mp rfl)
  exact ⟨v, json, key, value, hurl, hdecode, hread, hkey, hvalue⟩

end Kudos.Form
