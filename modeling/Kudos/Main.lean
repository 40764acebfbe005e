import Kudos.CommandLine.Run
import Std.Time.Zoned

/-!
# The program

The outer layer: it gathers the files that a run may look at, lets `Command.run` do the work, and
puts on the real host what the run left on its own. A question is answered by running again with one
more typed line, so nothing needs to be stopped halfway.
-/

namespace Kudos.Main

/-- The entry at a path; none if there is none. What cannot be read counts as a directory. -/
def entryAt (path : Path) : IO (Option FileNode) := do
  try
    return some (.file (← IO.FS.readBinFile (String.ofList path.text)).toList)
  catch
    | .noFileOrDirectory .. => return none
    | _ => return some .directory

/-- A tree with the entry at a path, if there is one. -/
def addEntry (tree : FileTree) (path : Path) : IO FileTree := do
  match ← entryAt path with
  | none => return tree
  | some node =>
    let tree := (tree.makeDirectories path.parent).toOption.getD tree
    match tree.locate path with
    | .ok place => return tree.put place node
    | .error _ => return tree

/-- The files that a home directory holds. -/
def filesOf (home : Home) : List Path :=
  [home.config, home.state, home.records]

/-- The home directory. -/
def findHome : IO Home := do
  match ← IO.getEnv "GRATITUDE_HOME" with
  | some text => return ⟨Path.ofText text.toList⟩
  | none =>
    let user := (← IO.getEnv "HOME").getD "."
    return ⟨(Path.ofText user.toList).child ".gratitude"⟩

/-- The present time. -/
def present : IO Timestamp := do
  let t ← Std.Time.PlainDateTime.now
  return {
    date := ⟨t.date.year.toInt.toNat, t.date.month.val.toNat, t.date.day.val.toNat⟩
    time := ⟨t.time.hour.val.toNat, t.time.minute.val.toNat, t.time.second.val.toNat,
      t.time.nanosecond.val.toNat / 1000⟩ }

/-- The host as the program finds it. -/
def findHost (home : Home) (words : List Text) : IO Host := do
  let directory := (Path.ofText (← IO.currentDir).toString.toList).names
  let root : FileTree := { directory }
  let tree := (root.makeDirectories ⟨['/'], directory⟩).toOption.getD root
  let named := (words.filter fun w => !w.isEmpty).map Path.ofText
  let files ← (filesOf home ++ named).foldlM addEntry tree
  return {
    files
    now := ← present
    chances := ← (List.range 8).mapM fun _ => return Int.ofNat (← IO.rand 0 999999)
    lastId := ← (List.range 8).foldlM (fun n _ => return 65536 * n + (← IO.rand 0 65535)) 0 }

/-- Runs a command line, with a line from the user for each question. The text that has been printed
and typed so far is not printed again. -/
partial def converse (home : Home) (words : List Text) (h : Host) (typed : List Text)
    (done : Nat) : IO (Ending × Host) := do
  let (ending, after) := Command.run home words { h with input := typed }
  let output ← IO.getStdout
  output.putStr (String.ofList (after.output.drop done))
  output.flush
  if ending = .fault .inputEnded then
    let line ← (← IO.getStdin).getLine
    if line.isEmpty then return (ending, after)
    else
      let word := Text.dropRightWhile (fun c => c = '\n' || c = '\r') line.toList
      converse home words h (typed ++ [word]) (after.output.length + word.length + 1)
  else return (ending, after)

/-- Writes the files of a home directory that a run has changed. -/
def store (home : Home) (before after : FileTree) : IO Unit := do
  for path in filesOf home do
    match (before.read path).toOption, (after.read path).toOption with
    | old, some new =>
      if old ≠ some new then
        IO.FS.createDirAll (String.ofList home.directory.text)
        IO.FS.writeBinFile (String.ofList path.text) ⟨new.toArray⟩
    | _, none => pure ()

/-- Says why a run did not succeed. -/
def explain : Ending → Option Text
  | .refused reason => some (reason.message?.getD Command.usageText)
  | .fault .inputEnded => some "Aborted!".toList
  | .fault .badMarkup => some "A message has markup that makes no sense.".toList
  | .fault _ => some "The files of the home directory cannot be used.".toList
  | .failure => none
  | .success => none

end Kudos.Main

open Kudos in
/-- Runs the program. -/
def main (words : List String) : IO UInt32 := do
  let words := words.map String.toList
  let home ← Main.findHome
  let h ← Main.findHost home words
  let (ending, after) ← Main.converse home words h [] 0
  Main.store home h.files after.files
  let errors ← IO.getStderr
  for warning in after.warnings.reverse do
    errors.putStrLn (String.ofList warning.message)
  for link in after.opened.reverse do
    errors.putStrLn ("Open in a browser: " ++ String.ofList link)
  for post in after.posts.reverse do
    errors.putStrLn ("Not delivered: " ++ String.ofList post.url)
  match Main.explain ending with
  | some text => errors.putStrLn (String.ofList text)
  | none => pure ()
  return UInt32.ofNat ending.exitCode
