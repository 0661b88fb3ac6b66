import LuceneQuery.Text.Blank

/-!
# Files and directories

A snapshot of the files that a command can see. Following a path is physical: every step must
start at a directory that exists, also one that leads back up.
-/

namespace LuceneQuery

set_option autoImplicit false

/-- An empty step, as after a slash at the end, and a single dot lead nowhere else. -/
def staysInPlace (step : Text) : Bool := step == [] || step == ['.']

/-- The steps from the root as they are spelled, where `..` is a step like any other. -/
structure Path where
  steps : List Text
  deriving DecidableEq

namespace Path

def names (path : Path) : List Text := path.steps.filter fun step => !staysInPlace step

/-- Whether two paths differ at most in steps that stay in place. -/
def isSame (left right : Path) : Bool := left.names == right.names

/-- The steps that more can be put after. -/
def opened (path : Path) : List Text :=
  if path.steps.getLast? = some [] then path.steps.dropLast else path.steps

def child (path : Path) (name : Text) : Path := ⟨path.opened ++ [name]⟩

def text (path : Path) : Text :=
  match path.steps with
  | [] => ['/']
  | steps => steps.flatMap fun step => '/' :: step

/-- What is above a path, given its steps from the last one back. -/
def aboveSteps : List Text → List Path
  | [] => []
  | step :: outer =>
      if staysInPlace step then aboveSteps outer
      else ⟨(outer.dropWhile staysInPlace).reverse⟩ :: aboveSteps outer

/-- The path itself and everything above it, by its steps alone. -/
def ancestors (path : Path) : List Path := path :: aboveSteps path.steps.reverse

/-- A path given as text leads on from a directory, or from the root when it starts there. -/
def follow (directory : Path) (given : Text) : Path :=
  match given with
  | '/' :: rest => ⟨rest.splitOn '/'⟩
  | _ => ⟨directory.opened ++ given.splitOn '/'⟩

end Path

inductive FileError where
  | missing
  | notDirectory
  | isDirectory
  | nameTooLong
  | nameWithNull
  | notText
  deriving DecidableEq

def FileError.message : FileError → String
  | .missing => "No such file or directory (os error 2)"
  | .notDirectory => "Not a directory (os error 20)"
  | .isDirectory => "Is a directory (os error 21)"
  | .nameTooLong => "File name too long (os error 36)"
  | .nameWithNull => "file name contained an unexpected NUL byte"
  | .notText => "stream did not contain valid UTF-8"

/-- How many bytes the name of one entry may have. -/
def nameLimit : Nat := 255

/-- How many bytes a path may have, as it is given. -/
def pathLimit : Nat := 4095

def byteLength (text : Text) : Nat := text.foldl (fun length c => length + c.utf8Size) 0

/-- What is wrong with the text of a path, wherever it leads. -/
def pathProblem? (given : Text) : Option FileError :=
  if given.isEmpty then some .missing
  else if given.contains '\x00' then some .nameWithNull
  else if pathLimit < byteLength given then some .nameTooLong
  else none

inductive Entry where
  | file (contents : ByteArray)
  | directory

def Entry.isFile : Entry → Bool
  | .file _ => true
  | .directory => false

/-- Where an entry lies: the names from the root, none of them `..`. -/
abbrev Location := List Text

/-- The newest entry of a location counts. The root is there without an entry. -/
structure FileTree where
  entries : List (Location × Entry)

namespace FileTree

def empty : FileTree := ⟨[]⟩

def at? (tree : FileTree) (location : Location) : Option Entry :=
  if location.isEmpty then some .directory else tree.entries.lookup location

def put (tree : FileTree) (location : Location) (entry : Entry) : FileTree :=
  ⟨(location, entry) :: tree.entries⟩

def stepFrom (location : Location) (step : Text) : Location :=
  if staysInPlace step then location
  else if step == ['.', '.'] then location.dropLast
  else location ++ [step]

/-- Where the steps lead from a location, if all but the last of the places on the way are
directories. A directory is asked for no name that is too long for an entry. -/
def walk (tree : FileTree) : Location → List Text → Except FileError Location
  | location, [] => .ok location
  | location, step :: later =>
      match tree.at? location with
      | none => .error .missing
      | some (.file _) => .error .notDirectory
      | some .directory =>
          if nameLimit < byteLength step then .error .nameTooLong
          else walk tree (stepFrom location step) later

def locate (tree : FileTree) (path : Path) : Except FileError Location := tree.walk [] path.steps

def find (tree : FileTree) (path : Path) : Except FileError Entry := do
  match tree.at? (← tree.locate path) with
  | some entry => .ok entry
  | none => .error .missing

/-- The entry that a path leads to, given as a text. -/
def findGiven (tree : FileTree) (given : Text) (path : Path) : Except FileError Entry :=
  match pathProblem? given with
  | some problem => .error problem
  | none => tree.find path

def isFile (tree : FileTree) (path : Path) : Bool :=
  match tree.findGiven path.text path with
  | .ok entry => entry.isFile
  | .error _ => false

def isThere (tree : FileTree) (path : Path) : Bool :=
  match tree.findGiven path.text path with
  | .ok _ => true
  | .error _ => false

def textOf (contents : ByteArray) : Except FileError Text :=
  match String.fromUTF8? contents with
  | some text => .ok text.toList
  | none => .error .notText

def readGiven (tree : FileTree) (given : Text) (path : Path) : Except FileError Text := do
  match ← tree.findGiven given path with
  | .file contents => textOf contents
  | .directory => .error .isDirectory

def readText (tree : FileTree) (path : Path) : Except FileError Text :=
  tree.readGiven path.text path

/-- Reads the file that a path leads to from a directory. -/
def readFrom (tree : FileTree) (directory : Path) (given : Text) : Except FileError Text :=
  tree.readGiven given (directory.follow given)

/-- Replaces a file, or makes one in a directory that is there. -/
def write (tree : FileTree) (path : Path) (contents : ByteArray) : Except FileError FileTree := do
  match pathProblem? path.text with
  | some problem => .error problem
  | none =>
      let location ← tree.locate path
      match tree.at? location with
      | some .directory => .error .isDirectory
      | some (.file _) => .ok (tree.put location (.file contents))
      | none =>
          match tree.at? location.dropLast with
          | some .directory => .ok (tree.put location (.file contents))
          | some (.file _) => .error .notDirectory
          | none => .error .missing

end FileTree

end LuceneQuery
