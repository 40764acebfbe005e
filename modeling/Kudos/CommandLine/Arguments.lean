import Kudos.Text.Basic

/-!
# Arguments

How the words behind a command divide into options and operands. An option has a long name, perhaps
a short one, and perhaps takes a value: the rest of its word behind an equals sign or behind the
short name, or else the next word, whatever it is. Short names may share a hyphen. Two hyphens alone
end the options.
-/

namespace Kudos

/-- What an option is for. -/
inductive Switch where
  /-- Print the version. -/
  | version
  /-- Print the usage. -/
  | help
  /-- Log what the analysis does. -/
  | verbose
  /-- The language of the file. -/
  | language
  /-- Print the analysis as JSON. -/
  | json
  /-- Print the numbers of the flagged lines. -/
  | linesOnly
  /-- Print the flagged lines. -/
  | onlyFlagged
  /-- Accept every offer. -/
  | yes
  /-- Open the links. -/
  | openLinks
  /-- The delay before a changed file is read again. -/
  | interval
  deriving Repr, DecidableEq

namespace Switch

/-- The long name. -/
def longName : Switch → Text
  | version => "--version".toList
  | help => "--help".toList
  | verbose => "--verbose".toList
  | language => "--language".toList
  | json => "--json".toList
  | linesOnly => "--lines-only".toList
  | onlyFlagged => "--only-flagged".toList
  | yes => "--yes".toList
  | openLinks => "--open".toList
  | interval => "--interval".toList

/-- The letter of the short name. -/
def letter? : Switch → Option Char
  | version => some 'v'
  | language => some 'l'
  | yes => some 'y'
  | interval => some 'i'
  | _ => none

/-- Whether the option takes a value. -/
def takesValue : Switch → Bool
  | language => true
  | interval => true
  | _ => false

end Switch

/-- The options and the operands of a command. -/
structure Arguments where
  /-- The options in their order, each with its value. -/
  given : List (Switch × Text) := []
  /-- The operands in their order. -/
  operands : List Text := []
  deriving Repr, DecidableEq

namespace Arguments

/-- Whether an option is given. -/
def has (a : Arguments) (s : Switch) : Bool :=
  a.given.any fun g => g.1 = s

/-- The last value that is given for an option. -/
def value? (a : Arguments) (s : Switch) : Option Text :=
  (a.given.reverse.find? fun g => g.1 = s).map (·.2)

/-- The arguments with one more option. -/
def add (a : Arguments) (s : Switch) (value : Text) : Arguments :=
  { a with given := a.given ++ [(s, value)] }

/-- The arguments with one more operand. -/
def addOperand (a : Arguments) (word : Text) : Arguments :=
  { a with operands := a.operands ++ [word] }

/-- The arguments with the short names of a word. The result also has the option whose value is the
next word. None if a name is unknown. -/
def addLetters (known : List Switch) (a : Arguments) : Text → Option (Arguments × Option Switch)
  | [] => some (a, none)
  | c :: rest =>
    match known.find? fun s => s.letter? = some c with
    | none => none
    | some s =>
      if !s.takesValue then addLetters known (a.add s []) rest
      else if rest.isEmpty then some (a, some s)
      else some (a.add s rest, none)

/-- The arguments with the options of a word that starts with a hyphen. The result also has the
option whose value is the next word. None if an option is unknown or has a value that it does not
take. -/
def addWord (known : List Switch) (a : Arguments) (word : Text) :
    Option (Arguments × Option Switch) :=
  let name := word.takeWhile (· != '=')
  let value := (word.drop name.length).drop 1
  let hasValue := name.length < word.length
  match known.find? fun s => s.longName = name with
  | some s =>
    if s.takesValue then if hasValue then some (a.add s value, none) else some (a, some s)
    else if hasValue then none
    else some (a.add s [], none)
  | none => if word.take 2 = ['-', '-'] then none else addLetters known a (word.drop 1)

/-- Whether a word holds options. A hyphen alone is an operand. -/
def isOption (word : Text) : Bool :=
  word.head? = some '-' && 1 < word.length

/-- The arguments that words make up, given those before them and the option whose value comes next.
If options stand first only, the first operand ends them. None if the words do not fit the options.
-/
def read (known : List Switch) (optionsFirst : Bool) (a : Arguments) :
    Option Switch → List Text → Option Arguments
  | none, [] => some a
  | some _, [] => none
  | some s, word :: rest => read known optionsFirst (a.add s word) none rest
  | none, word :: rest =>
    if word = ['-', '-'] then some { a with operands := a.operands ++ rest }
    else if isOption word then
      (addWord known a word).bind fun (a, next) => read known optionsFirst a next rest
    else if optionsFirst then some { a with operands := word :: rest }
    else read known optionsFirst (a.addOperand word) none rest

end Arguments

end Kudos
