import LuceneQuery.Settings

/-!
# Finding settings files

Every directory from the working directory up may hold a settings file. The search ends at a
root file; without one the file in the home directory comes last, unless it was met on the way.
-/

namespace LuceneQuery.Settings

set_option autoImplicit false

def fileName : Text := ".lq.toml".toList

def homeFile (home : Option Path) : Option Path :=
  home.map fun directory => directory.child fileName

def readFile (tree : FileTree) (path : Path) : Except SettingsError NamedFile :=
  match tree.readText path with
  | .ok text => NamedFile.read path.text text
  | .error problem => .error (.unreadable path.text problem)

/-- A file that cannot be read is no root: loading it reports what is wrong. -/
def isRoot (tree : FileTree) (path : Path) : Bool :=
  match readFile tree path with
  | .ok file => file.content.root == some true
  | .error _ => false

/-- The settings files of the directories, up to the first root file. -/
def chain (tree : FileTree) : List Path → List Path
  | [] => []
  | directory :: above =>
      let candidate := directory.child fileName
      if !tree.isFile candidate then chain tree above
      else if isRoot tree candidate then [candidate]
      else candidate :: chain tree above

/-- The home directory's own file, where the chain leaves room for it. -/
def afterChain (tree : FileTree) (home : Option Path) (chain : List Path) : List Path :=
  if chain.any (isRoot tree) then []
  else (homeFile home).toList.filter fun path => tree.isFile path && !chain.any path.isSame

def discover (tree : FileTree) (home : Option Path) (directory : Path) : List Path :=
  let chain := chain tree directory.ancestors
  chain ++ afterChain tree home chain

/-- Every file is read before any is merged. -/
def loadFiles (tree : FileTree) (paths : List Path) : Except SettingsError Effective := do
  Effective.ofFiles (← paths.mapM (readFile tree))

def load (tree : FileTree) (home : Option Path) (directory : Path) :
    Except SettingsError Effective :=
  loadFiles tree (discover tree home directory)

end LuceneQuery.Settings
