import Mathlib
import Kudos.Proofs.Number.Decimal

/-!
# Numbers in JSON text

A numeral by its parts, and the number that the reader makes of it: an integer if there is neither a
fraction nor an exponent, else a double precision number. The reader leaves what stands behind the
numeral as long as this does not carry the numeral on.
-/

namespace Kudos.Json

variable {rest : Text} {c : Char}

/-- What may stand behind a value. -/
def Closes (rest : Text) : Prop :=
  ∀ c ∈ rest.head?, isSpace c ∨ c = ',' ∨ c = ']' ∨ c = '\x7d'

theorem Closes.not_isDigit (h : Closes rest) : ∀ c ∈ rest.head?, ¬ c.isDigit := by
  intro c hc
  have hclass := h c hc
  simp only [isSpace, Bool.or_eq_true, decide_eq_true_eq] at hclass
  rcases hclass with (((rfl | rfl) | rfl) | rfl) | rfl | rfl | rfl <;> decide

/-- No fraction and no exponent stands there. -/
theorem Closes.not_mark (h : Closes rest) : ∀ c ∈ rest.head?, c ≠ '.' ∧ c ≠ 'e' ∧ c ≠ 'E' := by
  intro c hc
  have hclass := h c hc
  simp only [isSpace, Bool.or_eq_true, decide_eq_true_eq] at hclass
  rcases hclass with (((rfl | rfl) | rfl) | rfl) | rfl | rfl | rfl <;> decide

/-- A number as it is written: a sign if it is negative, digits, perhaps a fraction, and perhaps an
exponent with its sign. -/
structure Numeral where
  negative : Bool
  whole : Text
  part : Text := []
  exponent : Option (Bool × Text) := none
  isDigit_whole : ∀ c ∈ whole, c.isDigit
  isDigit_part : ∀ c ∈ part, c.isDigit := by simp
  isDigit_exponent : ∀ e ∈ exponent, ∀ c ∈ e.2, c.isDigit := by simp
  whole_ne_nil : whole ≠ []
  exponent_ne_nil : ∀ e ∈ exponent, e.2 ≠ [] := by simp
  /-- A zero stands alone. -/
  head?_whole : whole.head? ≠ some '0' ∨ whole = ['0']

namespace Numeral

/-- The fraction, with its point. -/
def partText (n : Numeral) : Text :=
  if n.part = [] then [] else '.' :: n.part

/-- The exponent, with its letter and sign. -/
def exponentText (n : Numeral) : Text :=
  match n.exponent with
  | none => []
  | some (negative, ds) => 'e' :: (if negative then '-' else '+') :: ds

def text (n : Numeral) : Text :=
  (if n.negative then ['-'] else []) ++ n.whole ++ n.partText ++ n.exponentText

/-- The value of the exponent. -/
def exponentValue (n : Numeral) : Option Int :=
  n.exponent.map fun e =>
    if e.1 then -(exponent?.decimal e.2 : Int) else (exponent?.decimal e.2 : Int)

/-- The number that a numeral denotes. -/
def value (n : Numeral) : Json :=
  match n.part, n.exponentValue with
  | [], none =>
    let k : Int := (exponent?.decimal n.whole : Nat)
    int (if n.negative then -k else k)
  | part, none =>
    real (.ofDecimal n.negative (exponent?.decimal (n.whole ++ part)) (-part.length))
  | part, some e =>
    real (.ofDecimal n.negative (exponent?.decimal (n.whole ++ part)) (e - part.length))

/-- Whether a numeral keeps within some limits: the digits of an integer are counted. -/
def Fits (l : Limits) (n : Numeral) : Prop :=
  n.part = [] → n.exponent = none → l.excludes n.whole.length = false

variable (n : Numeral) {l : Limits}

/-! ## Reading the parts -/

theorem head?_exponentText (h : Closes rest) :
    ∀ c ∈ (n.exponentText ++ rest).head?, ¬ c.isDigit ∧ c ≠ '.' := by
  intro c hc
  unfold exponentText at hc
  cases hexponent : n.exponent with
  | none =>
    rw [hexponent] at hc
    exact ⟨h.not_isDigit c hc, (h.not_mark c hc).1⟩
  | some e =>
    rw [hexponent] at hc
    obtain rfl : 'e' = c := by simpa using hc
    decide

theorem head?_partText (h : Closes rest) :
    ∀ c ∈ (n.partText ++ (n.exponentText ++ rest)).head?, ¬ c.isDigit := by
  intro c hc
  unfold partText at hc
  split at hc
  · exact (n.head?_exponentText h c hc).1
  · obtain rfl : '.' = c := by simpa using hc
    decide

theorem wholeDigits?_append (h : ∀ c ∈ rest.head?, ¬ c.isDigit) :
    wholeDigits? (n.whole ++ rest) = some (n.whole, rest) := by
  have hspan := spanDigits_append n.isDigit_whole h
  rcases n.head?_whole with hhead | hzero
  · obtain ⟨d, ds, hds⟩ := List.exists_cons_of_ne_nil n.whole_ne_nil
    rw [hds] at hspan hhead ⊢
    have hd : d ≠ '0' := by simpa using hhead
    unfold wholeDigits?
    split
    · next heq => exact absurd (List.cons.inj heq).1 hd
    · simp only [hspan]
  · rw [hzero]
    rfl

theorem fraction_append (h : Closes rest) :
    fraction (n.partText ++ (n.exponentText ++ rest)) = (n.part, n.exponentText ++ rest) := by
  have hbehind := n.head?_exponentText h
  unfold partText
  by_cases hpart : n.part = []
  · rw [if_pos hpart, List.nil_append, hpart]
    unfold fraction
    split
    · next t heq => exact absurd rfl (hbehind '.' (by simp [heq])).2
    · rfl
  · rw [if_neg hpart]
    have hspan := spanDigits_append n.isDigit_part fun c hc => (hbehind c hc).1
    obtain ⟨d, ds, hds⟩ := List.exists_cons_of_ne_nil hpart
    rw [hds, List.cons_append] at hspan
    simp only [fraction, List.cons_append, hds, hspan]

theorem exponent?_append (h : Closes rest) :
    exponent? (n.exponentText ++ rest) = n.exponentValue.map (·, rest) := by
  unfold exponentText exponentValue
  cases hexponent : n.exponent with
  | none =>
    cases rest with
    | nil => rfl
    | cons c rest =>
      obtain ⟨-, he, hE⟩ := h.not_mark c rfl
      simp [exponent?, he, hE]
  | some e =>
    obtain ⟨negative, ds⟩ := e
    have hspan : spanDigits (ds ++ rest) = (ds, rest) :=
      spanDigits_append (n.isDigit_exponent _ hexponent) h.not_isDigit
    obtain ⟨d, ds, rfl⟩ := List.exists_cons_of_ne_nil (n.exponent_ne_nil _ hexponent)
    rw [List.cons_append] at hspan
    cases negative <;> simp [exponent?, Number.leadingSign, hspan]

theorem unsigned_append (hfits : n.Fits l) (h : Closes rest) :
    unsigned l n.negative (n.whole ++ (n.partText ++ (n.exponentText ++ rest))) =
      .ok (n.value, rest) := by
  unfold unsigned value
  rw [n.wholeDigits?_append (n.head?_partText h)]
  simp only [n.fraction_append h, n.exponent?_append h]
  cases hexponent : n.exponent with
  | none =>
    have hnone : n.exponentText = [] := by simp [exponentText, hexponent]
    have hvalue : n.exponentValue = none := by simp [exponentValue, hexponent]
    rw [hnone, hvalue]
    cases hpart : n.part with
    | nil => simp [integer, hfits hpart hexponent, Except.map]
    | cons d ds => rfl
  | some e =>
    obtain ⟨v, hvalue⟩ : ∃ v, n.exponentValue = some v := ⟨_, by simp [exponentValue, hexponent]; rfl⟩
    rw [hvalue]
    simp

/-! ## Reading the whole -/

/-- A word is not there where another character stands. -/
theorem word?_cons_eq_none {w : String} {k d : Char} {ks t : Text} (hw : w.toList = k :: ks)
    (h : k ≠ d) : word? w (d :: t) = none := by
  simp [word?, hw, h]

/-- A digit starts none of the words. -/
theorem atom_digit {d : Char} (hd : d.isDigit) (t : Text) :
    atom l (d :: t) = unsigned l false (d :: t) := by
  have hne : ∀ c, ¬ c.isDigit → c ≠ d := fun c hc heq => hc (heq ▸ hd)
  have hconstant : constant? (d :: t) = none := by
    unfold constant?
    rw [word?_cons_eq_none rfl (hne 'n' (by decide)), word?_cons_eq_none rfl (hne 't' (by decide)),
      word?_cons_eq_none rfl (hne 'f' (by decide)), word?_cons_eq_none rfl (hne 'N' (by decide)),
      word?_cons_eq_none rfl (hne 'I' (by decide)), word?_cons_eq_none rfl (hne '-' (by decide))]
    rfl
  unfold atom
  rw [hconstant]
  dsimp only
  split
  · next heq => exact absurd (List.cons.inj heq).1.symm (hne '-' (by decide))
  · rfl

theorem atom_minus {d : Char} (hd : d.isDigit) (t : Text) :
    atom l ('-' :: d :: t) = unsigned l true (d :: t) := by
  have hinfinity : word? "-Infinity" ('-' :: d :: t) = none := by
    have hd' : 'I' ≠ d := by
      rintro rfl
      exact absurd hd (by decide)
    simp [word?, hd']
  have hconstant : constant? ('-' :: d :: t) = none := by
    unfold constant?
    rw [word?_cons_eq_none rfl (by decide : 'n' ≠ '-'),
      word?_cons_eq_none rfl (by decide : 't' ≠ '-'), word?_cons_eq_none rfl (by decide : 'f' ≠ '-'),
      word?_cons_eq_none rfl (by decide : 'N' ≠ '-'), word?_cons_eq_none rfl (by decide : 'I' ≠ '-'),
      hinfinity]
    rfl
  unfold atom
  rw [hconstant]
  rfl

/-- The reader takes a numeral for its number. -/
theorem atom_append (hfits : n.Fits l) (h : Closes rest) :
    atom l (n.text ++ rest) = .ok (n.value, rest) := by
  have hread := n.unsigned_append hfits h
  obtain ⟨d, ds, hds⟩ := List.exists_cons_of_ne_nil n.whole_ne_nil
  have hd : d.isDigit := n.isDigit_whole d (by simp [hds])
  unfold text
  cases hnegative : n.negative with
  | true =>
    rw [hds, hnegative] at hread
    simp only [↓reduceIte, hds, List.cons_append, List.nil_append, List.append_assoc] at hread ⊢
    rw [atom_minus hd, hread]
  | false =>
    rw [hds, hnegative] at hread
    simp only [Bool.false_eq_true, ↓reduceIte, hds, List.cons_append, List.nil_append,
      List.append_assoc] at hread ⊢
    rw [atom_digit hd, hread]

end Numeral

end Kudos.Json
