import Std.Time.DateTime.Timestamp
import LuceneQuery.Command

/-!
# The program

Gathers the files that a command can look at, runs it on them, and writes what it changed.
-/

namespace LuceneQuery

set_option autoImplicit false

namespace Program

/-- The places that following a path passes through, its end included. -/
def placesOn (path : Path) : List Location :=
  (path.steps.foldl
    (fun (location, passed) step =>
      let reached := FileTree.stepFrom location step
      (reached, reached :: passed))
    (([] : Location), ([] : List Location))).2

def settingsPaths (home : Option Path) (directory : Path) : List Path :=
  (directory.ancestors ++ home.toList).map fun above => above.child Settings.fileName

def sourcePaths (directory : Path) : Command → List Path
  | .render source _ => if source == ['-'] then [] else [directory.follow source]
  | _ => []

def places (home : Option Path) (directory : Path) (command : Command) : List Location :=
  ((settingsPaths home directory ++ sourcePaths directory command).flatMap placesOn).eraseDups

def nameOf (location : Location) : String := String.ofList (Path.mk location).text

/-- What cannot be read as a file, but is there, is taken to be a directory. -/
def probe (location : Location) : IO (Option Entry) := do
  try
    return some (.file (← IO.FS.readBinFile (nameOf location)))
  catch problem =>
    match problem with
    | .noFileOrDirectory .. => return none
    | _ => return some .directory

def gather (locations : List Location) : IO FileTree :=
  locations.foldlM
    (fun tree location => do
      match ← probe location with
      | some entry => return tree.put location entry
      | none => return tree)
    .empty

/-- The path of an absolute name. -/
def pathOf (name : String) : Path :=
  ⟨(name.toList.splitOn '/').filter fun step => !step.isEmpty⟩

def homeDirectory : IO (Option Path) := do
  match ← IO.getEnv "HOME" with
  | some name => return if name.startsWith "/" then some (pathOf name) else none
  | none => return none

def now : IO Timestamp := do
  let reading ← Std.Time.Timestamp.now
  let nanoseconds := reading.toNanosecondsSinceUnixEpoch.val
  return ⟨nanoseconds / 1000000000, (nanoseconds % 1000000000).toNat, 0⟩

def inputFor : Command → IO ByteArray
  | .render ['-'] _ => do (← IO.getStdin).readBinToEnd
  | _ => return .empty

def surroundingsOf (command : Command) : IO Surroundings := do
  let directory := pathOf (toString (← IO.currentDir))
  let home ← homeDirectory
  return {
    tree := ← gather (places home directory command)
    home, directory
    input := ← inputFor command
    -- The clock is read before the run, so all of its bounds are stored at one reading.
    now := ← now }

/-- A run only adds entries to the tree, in front of those that were there. -/
def save (before after : FileTree) : IO Unit := do
  for (location, entry) in after.entries.take (after.entries.length - before.entries.length) do
    match entry with
    | .file contents => IO.FS.writeBinFile (nameOf location) contents
    | .directory => pure ()

def finish (before : FileTree) (printed : Printed) : IO UInt32 := do
  save before printed.tree
  (← IO.getStderr).putStr (String.ofList printed.errors)
  (← IO.getStdout).putStr (String.ofList printed.output)
  return printed.code.toUInt32

end Program

end LuceneQuery

open LuceneQuery in
def main (arguments : List String) : IO UInt32 := do
  let given := arguments.map String.toList
  let around ←
    match Invocation.read given with
    | .ok invocation => Program.surroundingsOf invocation.command
    | .error _ => pure ⟨.empty, none, ⟨[]⟩, .empty, .still ⟨0, 0, 0⟩⟩
  Program.finish around.tree (runArguments around given)
