import Mathlib
import Kudos.Proofs.Json.RoundTrip
import Kudos.Text.LineBreak

/-!
# Written JSON is printable

On one line a value is written with printable ASCII characters only, whatever its strings hold: a control
character, a character beyond ASCII and each half of a surrogate pair become escapes.
-/

namespace Kudos

namespace Text

variable {t t' : Text} {c : Char} {n : Nat}

/-- A blank or a visible ASCII character. -/
def isPrintable (c : Char) : Bool :=
  0x20 ≤ c.toNat && c.toNat < 0x7F

theorem isPrintable_iff : isPrintable c ↔ 0x20 ≤ c.toNat ∧ c.toNat < 0x7F := by
  simp [isPrintable]

/-- Whether a text is printable throughout. -/
def Printable (t : Text) : Prop :=
  ∀ c ∈ t, isPrintable c

theorem printable_of_all (h : t.all isPrintable = true) : Printable t :=
  List.all_eq_true.mp h

theorem printable_nil : Printable [] :=
  fun _ hc => absurd hc List.not_mem_nil

theorem printable_append : Printable (t ++ t') ↔ Printable t ∧ Printable t' :=
  List.forall_mem_append

theorem printable_cons : Printable (c :: t) ↔ isPrintable c ∧ Printable t :=
  List.forall_mem_cons

theorem Printable.not_isLineBreak (ht : Printable t) (hc : c ∈ t) : ¬ isLineBreak c := by
  obtain ⟨hlow, hhigh⟩ := isPrintable_iff.mp (ht c hc)
  simp only [isLineBreak, Bool.or_eq_true, Bool.and_eq_true, decide_eq_true_eq]
  omega

/-- Printable lines make a text in ASCII. -/
theorem toNat_lt_of_mem_lines {lines : List Text} (h : ∀ line ∈ lines, Printable line) :
    ∀ c ∈ lines.flatMap (· ++ ['\n']), c.toNat < 0x80 := by
  intro c hc
  obtain ⟨line, hline, hmem⟩ := List.mem_flatMap.mp hc
  rcases List.mem_append.mp hmem with hmem | hmem
  · have hbounds := isPrintable_iff.mp (h line hline c hmem)
    omega
  · rw [List.mem_singleton.mp hmem]
    decide

theorem isPrintable_hexDigit : ∀ n < 16, isPrintable (hexDigit n) := by
  decide

theorem printable_hex (width n : Nat) : Printable (hex width n) := by
  induction width generalizing n with
  | zero => exact printable_nil
  | succ width ih =>
    rw [hex, printable_append, printable_cons]
    exact ⟨ih _, isPrintable_hexDigit _ (Nat.mod_lt _ (by decide)), printable_nil⟩

theorem printable_of_isDigit (ht : ∀ c ∈ t, c.isDigit) : Printable t := by
  intro c hc
  obtain ⟨hlow, hhigh⟩ := Number.toNat_of_isDigit (ht c hc)
  rw [isPrintable_iff]
  omega

theorem printable_ofInt (n : Int) : Printable (ofInt n) := by
  cases n with
  | ofNat n => exact printable_of_isDigit fun c => isDigit_of_mem_ofNat
  | negSucc n => exact printable_cons.mpr ⟨by decide, printable_of_isDigit fun c => isDigit_of_mem_ofNat⟩

end Text

namespace Json

open Text

variable {v : Json} {items : List Json} {fields : List (Units × Json)} {style : Style}

theorem printable_writeUnit (u : UInt16) : Printable (writeUnit u) := by
  unfold writeUnit
  dsimp only
  split_ifs with h1 h2 h3 h4 h5 h6 h7 h8
  · exact printable_of_all rfl
  · exact printable_of_all rfl
  · exact printable_of_all rfl
  · exact printable_of_all rfl
  · exact printable_of_all rfl
  · exact printable_of_all rfl
  · exact printable_of_all rfl
  · rw [Bool.and_eq_true, decide_eq_true_eq, decide_eq_true_eq] at h8
    have hchar : (Char.ofNat u.toNat).toNat = u.toNat := by
      rw [Char.toNat_ofNat, if_pos (.inl (by omega))]
    rw [printable_cons, isPrintable_iff, hchar]
    exact ⟨h8, printable_nil⟩
  · unfold escapeNumber
    rw [printable_cons, printable_cons]
    exact ⟨by decide, by decide, printable_hex _ _⟩

theorem printable_writeString (s : Units) : Printable (writeString s) := by
  unfold writeString
  rw [printable_append, printable_cons, printable_cons]
  refine ⟨⟨by decide, fun c hc => ?_⟩, by decide, printable_nil⟩
  obtain ⟨u, -, hu⟩ := List.mem_flatMap.mp hc
  exact printable_writeUnit u c hu

/-- What stands between values on one line. -/
theorem printable_style (hstyle : style ≠ .indented) (depth : Nat) :
    style.edge depth = [] ∧ Printable (style.comma depth) ∧ Printable style.colon := by
  cases style with
  | indented => exact absurd rfl hstyle
  | spaced => exact ⟨rfl, printable_of_all rfl, printable_of_all rfl⟩
  | compact => exact ⟨rfl, printable_of_all rfl, printable_of_all rfl⟩

theorem printable_writeItems (hstyle : style ≠ .indented) {depth : Nat}
    (h : ∀ v ∈ items, Printable (writeAt style depth v)) : Printable (writeItems style depth items) := by
  induction items with
  | nil => exact printable_nil
  | cons v items ih =>
    obtain ⟨hv, hitems⟩ := List.forall_mem_cons.mp h
    cases items with
    | nil => exact hv
    | cons w items =>
      rw [writeItems, printable_append, printable_append]
      · exact ⟨⟨hv, (printable_style hstyle depth).2.1⟩, ih hitems⟩
      · simp

theorem printable_writeFields (hstyle : style ≠ .indented) {depth : Nat}
    (h : ∀ f ∈ fields, Printable (writeAt style depth f.2)) : Printable (writeFields style depth fields) := by
  have field : ∀ f : Units × Json, Printable (writeAt style depth f.2) →
      Printable (writeString f.1 ++ style.colon ++ writeAt style depth f.2) := by
    intro f hf
    rw [printable_append, printable_append]
    exact ⟨⟨printable_writeString _, (printable_style hstyle depth).2.2⟩, hf⟩
  induction fields with
  | nil => exact printable_nil
  | cons f fields ih =>
    obtain ⟨hf, hfields⟩ := List.forall_mem_cons.mp h
    cases fields with
    | nil => exact field f hf
    | cons g fields =>
      rw [writeFields, printable_append, printable_append]
      · exact ⟨⟨field f hf, (printable_style hstyle depth).2.1⟩, ih hfields⟩
      · simp

/-- A value without double precision numbers is printable on one line. -/
theorem Whole.printable (hv : v.Whole) (hstyle : style ≠ .indented) (depth : Nat) :
    Printable (writeAt style depth v) := by
  induction hv generalizing depth with
  | null => exact printable_of_all rfl
  | bool b => cases b <;> exact printable_of_all rfl
  | int n => exact printable_ofInt n
  | string s => exact printable_writeString s
  | @array items _ ih =>
    cases items with
    | nil => exact printable_of_all rfl
    | cons v items =>
      have hitems := printable_writeItems hstyle fun w hw => ih w hw (depth + 1)
      rw [writeAt, (printable_style hstyle _).1, (printable_style hstyle _).1]
      simp only [List.append_nil, printable_append, printable_cons]
      exact ⟨⟨⟨by decide, printable_nil⟩, hitems⟩, by decide, printable_nil⟩
  | @object fields _ ih =>
    cases fields with
    | nil => exact printable_of_all rfl
    | cons f fields =>
      have hfields := printable_writeFields hstyle fun g hg => ih g hg (depth + 1)
      rw [writeAt, (printable_style hstyle _).1, (printable_style hstyle _).1]
      simp only [List.append_nil, printable_append, printable_cons]
      exact ⟨⟨⟨by decide, printable_nil⟩, hfields⟩, by decide, printable_nil⟩

end Json

end Kudos
