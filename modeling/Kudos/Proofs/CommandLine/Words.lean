import Mathlib
import Kudos.CommandLine.Command
import Kudos.Proofs.Number.Decimal

/-!
# Command lines that work on a file

A command line that names the command, some options without a value, a choice of language, and behind
two hyphens the operands, is read as just these (`ofWords_commandWords`). So every file that can be
read can be scanned, and each of its lines can be looked at and thanked for, in every language.
-/

namespace Kudos

variable {known options flags : List Switch} {s : Switch} {a : Arguments} {tag? : Option Text}
  {words operands : List Text} {files : FileTree} {word number : Text} {path : Path}
  {bytes : List UInt8} {line : Int}

/-- The words that choose a language, if one is chosen. -/
def languageWords : Option Text → List Text
  | none => []
  | some tag => [Switch.language.longName, tag]

/-- The words behind the name of a command: options, a choice of language, and operands. -/
def optionWords (flags : List Switch) (tag? : Option Text) (operands : List Text) : List Text :=
  flags.map Switch.longName ++ (languageWords tag? ++ ['-', '-'] :: operands)

namespace Arguments

/-- The arguments that such words make up. -/
def ofOptions (flags : List Switch) (tag? : Option Text) (operands : List Text) : Arguments :=
  ⟨flags.map (·, []) ++ tag?.toList.map (Switch.language, ·), operands⟩

/-- The long name of an option is a word that holds that option and nothing else. -/
theorem longName_spec (s : Switch) :
    s.longName.takeWhile (· != '=') = s.longName ∧ isOption s.longName ∧ s.longName ≠ ['-', '-'] := by
  cases s <;> decide +kernel

theorem addWord_longName (hs : known.find? (·.longName = s.longName) = some s) :
    addWord known a s.longName = some (if s.takesValue then (a, some s) else (a.add s [], none)) := by
  unfold addWord
  rw [(longName_spec s).1]
  dsimp only
  rw [hs]
  cases hvalue : s.takesValue <;> simp [hvalue]

theorem read_longName (hs : known.find? (·.longName = s.longName) = some s) (words : List Text) :
    read known false a none (s.longName :: words) =
      if s.takesValue then read known false a (some s) words
      else read known false (a.add s []) none words := by
  obtain ⟨-, hoption, hne⟩ := longName_spec s
  rw [read, if_neg hne, if_pos hoption, addWord_longName hs]
  cases s.takesValue <;> rfl

/-- Words of this form are read as what they are made of. -/
theorem read_optionWords (hlanguage : known.find? (·.longName = Switch.language.longName) = some .language)
    (hflags : ∀ s ∈ flags, s.takesValue = false ∧ known.find? (·.longName = s.longName) = some s) :
    read known false a none (optionWords flags tag? operands) =
      some ⟨a.given ++ (ofOptions flags tag? operands).given, a.operands ++ operands⟩ := by
  induction flags generalizing a with
  | nil =>
    cases tag? with
    | none => simp [optionWords, languageWords, ofOptions, read]
    | some tag =>
      have hwords : optionWords [] (some tag) operands =
          Switch.language.longName :: tag :: ['-', '-'] :: operands := rfl
      rw [hwords, read_longName hlanguage, if_pos (by rfl)]
      simp [ofOptions, read, add]
  | cons s flags ih =>
    obtain ⟨hvalue, hknown⟩ := hflags s List.mem_cons_self
    have hwords : optionWords (s :: flags) tag? operands =
        s.longName :: optionWords flags tag? operands := rfl
    rw [hwords, read_longName hknown, hvalue, if_neg Bool.false_ne_true,
      ih fun s hs => hflags s (List.mem_cons_of_mem _ hs)]
    simp [ofOptions, add]

end Arguments

namespace Command

/-- The first word names the command. -/
theorem ofWords_cons {name : Text} (hname : Arguments.isOption name = false) (hne : name ≠ ['-', '-'])
    (words : List Text) : ofWords files (name :: words) = ofNamed files name words := by
  unfold ofWords
  rw [Arguments.read, if_neg hne, if_neg (by simp [hname]), if_pos rfl]
  rfl

theorem read_optionWords
    (hlanguage : (Switch.help :: options).find? (·.longName = Switch.language.longName) = some .language)
    (hflags : ∀ s ∈ flags,
      s.takesValue = false ∧ (Switch.help :: options).find? (·.longName = s.longName) = some s)
    (hhelp : .help ∉ flags) (make : Arguments → Except Refusal Command) :
    read options (optionWords flags tag? operands) make =
      make (.ofOptions flags tag? operands) := by
  have hno : (Arguments.ofOptions flags tag? operands).has .help = false := by
    unfold Arguments.has Arguments.ofOptions
    rw [List.any_eq_false]
    intro g hg
    rcases List.mem_append.mp hg with hg | hg
    · obtain ⟨s, hs, rfl⟩ := List.mem_map.mp hg
      simpa using fun heq : s = .help => hhelp (heq ▸ hs)
    · obtain ⟨tag, -, rfl⟩ := List.mem_map.mp hg
      simp
  unfold read
  rw [Arguments.read_optionWords hlanguage hflags]
  simp only [List.nil_append]
  rw [if_neg (by simpa [Arguments.ofOptions] using hno)]
  rfl

/-- The language that is chosen decides how a file is read. -/
theorem document_eq (htag : ∀ tag ∈ tag?, isLanguage tag) (ha : a.value? .language = tag?) :
    document path bytes a = .ok (Document.ofBytes path (tag?.map String.ofList) bytes) := by
  unfold document
  rw [ha]
  cases tag? with
  | none => rfl
  | some tag => simp [htag tag rfl]

/-- Every line number that is not too long can be typed in digits. -/
theorem line?_ofInt (hline : 1 ≤ line) (hlength : (Text.ofInt line).length ≤ Number.mostDigits) :
    line? (Text.ofInt line) = some line := by
  obtain ⟨n, rfl⟩ := Int.eq_ofNat_of_zero_le (show 0 ≤ line by omega)
  have hread : Number.integer? (Text.ofInt n) = some (n : Int) := Number.integer?_ofNat hlength
  unfold line?
  rw [hread, Option.filter_some_pos (by simpa using hline)]

/-- The words that scan a file for the numbers of its flagged lines. -/
def scanWords (tag? : Option Text) (word : Text) : List Text :=
  "scan".toList :: optionWords [.linesOnly] tag? [word]

/-- The words that ask for the tooltip of a line. -/
def hoverWords (tag? : Option Text) (word number : Text) : List Text :=
  "hover".toList :: optionWords [] tag? [word, number]

/-- The words that say thanks for a line and accept every offer. -/
def thanksWords (tag? : Option Text) (word number : Text) : List Text :=
  "thanks".toList :: optionWords [.yes] tag? [word, number]

/-- Words that scan a file are read as a scan of the document in it, in the style of their options. -/
theorem ofWords_scan (hfile : file? files word = some (path, bytes))
    (htag : ∀ tag ∈ tag?, isLanguage tag)
    (hflags : ∀ s ∈ flags, s.takesValue = false ∧
      [.help, .language, .json, .linesOnly, .onlyFlagged].find? (·.longName = s.longName) = some s)
    (hhelp : .help ∉ flags)
    (hlanguage : (Arguments.ofOptions flags tag? [word]).value? .language = tag?) :
    ofWords files ("scan".toList :: optionWords flags tag? [word]) =
      .ok (.scan (Document.ofBytes path (tag?.map String.ofList) bytes)
        (scanStyle (.ofOptions flags tag? [word]))) := by
  have hnamed : ∀ words, ofNamed files "scan".toList words =
      read [.language, .json, .linesOnly, .onlyFlagged] words fun a =>
        ofFile files a (.scan · (scanStyle a)) := fun _ => rfl
  have hoperands : (Arguments.ofOptions flags tag? [word]).operands = [word] := rfl
  rw [ofWords_cons (by decide) (by decide), hnamed,
    read_optionWords (by decide +kernel) hflags hhelp]
  unfold ofFile
  rw [hoperands]
  dsimp only
  rw [hfile]
  dsimp only
  rw [document_eq htag hlanguage]
  rfl

theorem ofWords_scanWords (hfile : file? files word = some (path, bytes))
    (htag : ∀ tag ∈ tag?, isLanguage tag) :
    ofWords files (scanWords tag? word) =
      .ok (.scan (Document.ofBytes path (tag?.map String.ofList) bytes) .linesOnly) := by
  have hstyle : scanStyle (.ofOptions [.linesOnly] tag? [word]) = .linesOnly := by
    cases tag? <;> rfl
  rw [scanWords, ofWords_scan hfile htag (by decide +kernel) (by decide) (by cases tag? <;> rfl), hstyle]

/-- The words that print the listing of a file, perhaps of its flagged lines only. -/
def listingWords (onlyFlagged : Bool) (tag? : Option Text) (word : Text) : List Text :=
  "scan".toList :: optionWords (if onlyFlagged then [.onlyFlagged] else []) tag? [word]

theorem ofWords_listingWords (hfile : file? files word = some (path, bytes))
    (htag : ∀ tag ∈ tag?, isLanguage tag) (onlyFlagged : Bool) :
    ofWords files (listingWords onlyFlagged tag? word) =
      .ok (.scan (Document.ofBytes path (tag?.map String.ofList) bytes) (.listing onlyFlagged)) := by
  unfold listingWords
  cases onlyFlagged with
  | false =>
    have hstyle : scanStyle (.ofOptions [] tag? [word]) = .listing false := by cases tag? <;> rfl
    rw [if_neg Bool.false_ne_true, ofWords_scan hfile htag (by simp) (by simp) (by cases tag? <;> rfl),
      hstyle]
  | true =>
    have hstyle : scanStyle (.ofOptions [.onlyFlagged] tag? [word]) = .listing true := by
      cases tag? <;> rfl
    rw [if_pos rfl, ofWords_scan hfile htag (by decide +kernel) (by decide) (by cases tag? <;> rfl),
      hstyle]

/-- A command for a line of a file is read as one for the document in that file. -/
theorem ofLine_ofOptions (hfile : file? files word = some (path, bytes))
    (htag : ∀ tag ∈ tag?, isLanguage tag) (hnumber : line? number = some line)
    (hlanguage : (Arguments.ofOptions flags tag? [word, number]).value? .language = tag?)
    (make : Document → Int → Command) :
    ofLine files (.ofOptions flags tag? [word, number]) make =
      .ok (make (Document.ofBytes path (tag?.map String.ofList) bytes) line) := by
  have hoperands : (Arguments.ofOptions flags tag? [word, number]).operands = [word, number] := rfl
  unfold ofLine
  rw [hoperands]
  dsimp only
  rw [hfile, hnumber]
  dsimp only
  rw [document_eq htag hlanguage]
  rfl

theorem ofWords_hoverWords (hfile : file? files word = some (path, bytes))
    (htag : ∀ tag ∈ tag?, isLanguage tag) (hnumber : line? number = some line) :
    ofWords files (hoverWords tag? word number) =
      .ok (.hover (Document.ofBytes path (tag?.map String.ofList) bytes) line) := by
  have hnamed : ∀ words, ofNamed files "hover".toList words =
      read [.language] words fun a => ofLine files a .hover := fun _ => rfl
  unfold hoverWords
  rw [ofWords_cons (by decide) (by decide), hnamed,
    read_optionWords (by decide +kernel) (by simp) (by simp)]
  exact ofLine_ofOptions hfile htag hnumber (by cases tag? <;> rfl) _

theorem ofWords_thanksWords (hfile : file? files word = some (path, bytes))
    (htag : ∀ tag ∈ tag?, isLanguage tag) (hnumber : line? number = some line) :
    ofWords files (thanksWords tag? word number) =
      .ok (.thanks (Document.ofBytes path (tag?.map String.ofList) bytes) line true false) := by
  have hnamed : ∀ words, ofNamed files "thanks".toList words =
      read [.language, .yes, .openLinks] words fun a =>
        ofLine files a (.thanks · · (a.has .yes) (a.has .openLinks)) := fun _ => rfl
  have hyes : (Arguments.ofOptions [.yes] tag? [word, number]).has .yes = true := by
    cases tag? <;> rfl
  have hopen : (Arguments.ofOptions [.yes] tag? [word, number]).has .openLinks = false := by
    cases tag? <;> rfl
  unfold thanksWords
  rw [ofWords_cons (by decide) (by decide), hnamed,
    read_optionWords (by decide +kernel) (by decide +kernel) (by decide), hyes, hopen]
  exact ofLine_ofOptions hfile htag hnumber (by cases tag? <;> rfl) _

end Command

end Kudos
