import Kudos.Display.Markup
import Kudos.Host

/-!
# Notifiers

How messages reach the user: they are recorded, and every question gets the same answer; or they are
printed on the console, and questions are answered from the input unless the answer is fixed.
-/

namespace Kudos

/-- A way to reach the user. -/
inductive Notifier where
  /-- Records messages and gives every question the same answer. -/
  | recording (answer : Bool)
  /-- Prints messages; without a fixed answer questions are put to the user. -/
  | console (answer : Option Bool)
  deriving Repr, DecidableEq

namespace Notifier

/-- The cells of a line on the console. -/
def consoleWidth : Nat := 500

/-- Prints a message with markup. -/
def print (t : Text) : Action Unit := do
  match Markup.print? (← get).styles consoleWidth t with
  | none => throw .badMarkup
  | some shown => modify (·.print shown)

/-- A message as it stands on the console, with markup. -/
def marked (message : Text) : Text :=
  "[cyan]ℹ[/cyan] ".toList ++ message

/-- The note that a message would go away after some seconds; none if it stays. -/
def dismissNote : Option Number → Action Text
  | none => return []
  | some n =>
    if n.isZero then return []
    else
      match n.toBinary64? with
      | none => throw .numberTooLarge
      | some x => return " [dim](dismisses in ".toList ++ x.general ++ "s)[/dim]".toList

/-- Shows a message. A line on the console stays, so there it is only noted when it would go. -/
def inform (n : Notifier) (message : Text) (dismissAfter : Option Number) : Action Unit :=
  match n with
  | recording _ => modify fun h => { h with notices := .shown message dismissAfter :: h.notices }
  | console _ => do
    let note ← dismissNote dismissAfter
    print (marked message ++ note)

/-- The answer that a typed line gives; none if it is neither. An empty line means no. -/
def answer? (line : Text) : Option Bool :=
  let t := Text.trim (line.map Char.toLower)
  if t = ['y'] || t = "yes".toList then some true
  else if t = ['n'] || t = "no".toList || t.isEmpty then some false
  else none

/-- Puts a question to the user until a line answers it. The result is the answer, none at the end
of the input, with the text that appears on the console and the lines that are left. -/
def askLines (action : Text) : List Text → Option Bool × Text × List Text
  | [] => (none, question, [])
  | line :: rest =>
    match answer? line with
    | some b => (some b, question ++ line ++ ['\n'], rest)
    | none =>
      let (b, shown, left) := askLines action rest
      (b, question ++ line ++ "\nError: invalid input\n".toList ++ shown, left)
where
  /-- The question. -/
  question : Text := action ++ " [y/N]: ".toList

/-- Shows a message with an action and asks whether to take it. -/
def offer (n : Notifier) (message action : Text) : Action Bool :=
  match n with
  | recording answer => do
    modify fun h => { h with notices := .asked message action :: h.notices }
    return answer
  | console fixed => do
    print (marked message)
    match fixed with
    | some answer => return answer
    | none =>
      let (answer, shown, left) := askLines action (← get).input
      modify fun h => { h.print shown with input := left }
      match answer with
      | some b => return b
      | none => throw .inputEnded

end Notifier

end Kudos
