import Kudos.CommandLine.Arguments
import Kudos.Language
import Kudos.Number.Reader

/-!
# Commands

What the words of a command line ask for, with every operand checked: a file is there, a number is
in its range. Words that ask for nothing the program can do are refused, and the first reason
counts.
-/

namespace Kudos

/-- Why a command line is refused. -/
inductive Refusal where
  /-- The words do not fit any command. -/
  | usage
  /-- There is no grammar for a language. -/
  | unknownLanguage (name : Text)
  /-- The address for records is not one of the web. -/
  | badEndpoint
  /-- A line number lies outside the document. -/
  | lineOutside (line : Int) (count : Nat)
  /-- The state file does not hold UTF-8. -/
  | badState
  /-- The state file holds an integer of too many digits. -/
  | longNumber
  deriving Repr, DecidableEq

namespace Refusal

/-- The reason in words; none if the usage of the program says it all. -/
def message? : Refusal → Option Text
  | usage => none
  | unknownLanguage name =>
    some ("Unknown language '".toList ++ name ++ "'. Choose from: ".toList ++
      Text.join [',', ' '] (Language.supported.map String.toList))
  | badEndpoint => some "Endpoint must start with http:// or https://".toList
  | lineOutside _ _ => none
  | badState => none
  | longNumber => none

end Refusal

/-- How a scan is printed. -/
inductive ScanStyle where
  /-- As a JSON object. -/
  | json
  /-- As the numbers of the flagged lines. -/
  | linesOnly
  /-- As a listing, perhaps of the flagged lines only, with a summary. -/
  | listing (onlyFlagged : Bool)
  deriving Repr, DecidableEq

/-- What the user asks for. -/
inductive Command where
  /-- The version. -/
  | version
  /-- The usage. -/
  | help
  /-- The flagged lines of a file. -/
  | scan (d : Document) (style : ScanStyle)
  /-- The tooltip of a line. -/
  | hover (d : Document) (line : Int)
  /-- The import statements of a file as the detector counts them. -/
  | statements (d : Document)
  /-- Thanks for a line. -/
  | thanks (d : Document) (line : Int) (acceptAll openLinks : Bool)
  /-- The settings. -/
  | showConfig
  /-- A new address for records. -/
  | setEndpoint (endpoint : Text)
  /-- A new theme. -/
  | setTheme (name : Text)
  /-- The flagged lines of a file whenever it changes. -/
  | watch (path : Path) (language : Option String) (interval : Binary64)
  deriving Repr

namespace Command

/-- The options before a command. -/
def outerOptions : List Switch := [.version, .help, .verbose]

/-- The path and the bytes of the file that an operand names. A name that ends like a directory
names no file. -/
def file? (files : FileTree) (word : Text) : Option (Path × List UInt8) :=
  if word.isEmpty || word.getLast? = some '/' || word.reverse.take 2 = ['.', '/'] then none
  else
    let path := Path.ofText word
    ((files.read path).toOption).map fun bytes => (path, bytes)

/-- The line number that an operand denotes, counted from one. -/
def line? (word : Text) : Option Int :=
  (Number.integer? word).filter (1 ≤ ·)

/-- Whether a language can be asked for. -/
def isLanguage (name : Text) : Bool :=
  (Language.other :: Language.supported).any fun tag => tag.toList = name

/-- The document in a file, in the language that is asked for. -/
def document (path : Path) (bytes : List UInt8) (a : Arguments) : Except Refusal Document :=
  match a.value? .language with
  | none => .ok (Document.ofBytes path none bytes)
  | some name =>
    if isLanguage name then .ok (Document.ofBytes path (some (String.ofList name)) bytes)
    else .error (.unknownLanguage name)

/-- What a command makes of its words. -/
def read (options : List Switch) (words : List Text)
    (make : Arguments → Except Refusal Command) : Except Refusal Command :=
  match Arguments.read (.help :: options) false {} none words with
  | none => .error .usage
  | some a => if a.has .help then .ok .help else make a

/-- What a command makes of a file. -/
def ofFile (files : FileTree) (a : Arguments) (make : Document → Command) :
    Except Refusal Command :=
  match a.operands with
  | [word] =>
    match file? files word with
    | none => .error .usage
    | some (path, bytes) => (document path bytes a).map make
  | _ => .error .usage

/-- What a command makes of a file and a line number. -/
def ofLine (files : FileTree) (a : Arguments) (make : Document → Int → Command) :
    Except Refusal Command :=
  match a.operands with
  | [word, number] =>
    match file? files word, line? number with
    | some (path, bytes), some line => (document path bytes a).map (make · line)
    | _, _ => .error .usage
  | _ => .error .usage

/-- How the options of a scan ask for it to be printed. -/
def scanStyle (a : Arguments) : ScanStyle :=
  if a.has .json then .json
  else if a.has .linesOnly then .linesOnly
  else .listing (a.has .onlyFlagged)

/-- The seconds before a changed file is read again, unless others are asked for. -/
def defaultInterval : Binary64 := .ofDecimal false 3 (-1)

/-- What the command to watch a file makes of its arguments. Any language can be asked for. -/
def ofWatch (files : FileTree) (a : Arguments) : Except Refusal Command :=
  match a.operands with
  | [word] =>
    let interval :=
      match a.value? .interval with
      | none => some defaultInterval
      | some t => Number.ofText? t
    match file? files word, interval with
    | some (path, _), some interval =>
      .ok (.watch path ((a.value? .language).map String.ofList) interval)
    | _, _ => .error .usage
  | _ => .error .usage

/-- Whether an address is one of the web, or empty. -/
def isEndpoint (t : Text) : Bool :=
  t.isEmpty || t.startsWith "http://".toList || t.startsWith "https://".toList

/-- What the words behind `config` ask for. -/
def ofConfigWords (name : Text) (words : List Text) : Except Refusal Command :=
  match String.ofList name with
  | "show" => read [] words fun a =>
    if a.operands.isEmpty then .ok .showConfig else .error .usage
  | "set-endpoint" => read [] words fun a =>
    match a.operands with
    | [] => .ok (.setEndpoint [])
    | [endpoint] => if isEndpoint endpoint then .ok (.setEndpoint endpoint) else .error .badEndpoint
    | _ => .error .usage
  | "set-theme" => read [] words fun a =>
    match a.operands with
    | [name] => .ok (.setTheme name)
    | _ => .error .usage
  | _ => .error .usage

/-- What a command and the words behind it ask for. -/
def ofNamed (files : FileTree) (name : Text) (words : List Text) : Except Refusal Command :=
  match String.ofList name with
  | "scan" => read [.language, .json, .linesOnly, .onlyFlagged] words fun a =>
    ofFile files a (.scan · (scanStyle a))
  | "hover" => read [.language] words fun a => ofLine files a .hover
  | "statements" => read [.language] words fun a => ofFile files a .statements
  | "thanks" => read [.language, .yes, .openLinks] words fun a =>
    ofLine files a (.thanks · · (a.has .yes) (a.has .openLinks))
  | "watch" => read [.language, .interval] words (ofWatch files)
  | "config" =>
    match Arguments.read [.help] true {} none words with
    | none => .error .usage
    | some a =>
      if a.has .help then .ok .help
      else
        match a.operands with
        | [] => .error .usage
        | name :: words => ofConfigWords name words
  | _ => .error .usage

/-- What the words of a command line ask for. -/
def ofWords (files : FileTree) (words : List Text) : Except Refusal Command :=
  match Arguments.read outerOptions true {} none words with
  | none => .error .usage
  | some a =>
    match (a.given.map (·.1)).find? fun s => s ≠ .verbose with
    | some s => .ok (if s = .version then .version else .help)
    | none =>
      match a.operands with
      | [] => .error .usage
      | name :: words => ofNamed files name words

end Command

end Kudos
