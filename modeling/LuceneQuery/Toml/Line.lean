import LuceneQuery.Toml.Form

/-!
# TOML lines

A text is a list of lines: a header opens a table or adds one to an array, and an entry adds to
the table of the header before it. A line ends only outside of all brackets.
-/

namespace LuceneQuery.Toml

set_option autoImplicit false

inductive Line where
  | table (key : KeyForm)
  | element (key : KeyForm)
  | entry (key : KeyForm) (form : Form)

namespace Line

def leaves : List Tree → Option (List Token)
  | [] => some []
  | .leaf token :: later => (leaves later).map (token :: ·)
  | _ => none

def key? (trees : List Tree) : Option KeyForm := do
  KeyForm.ofTokens? (← leaves trees)

/-- Nothing but white space and a comment may follow what the line holds. -/
def single : List Tree → Option Tree
  | tree :: later => if later.all Tree.isBlank then some tree else none
  | [] => none

def isEquals : Tree → Bool
  | .leaf (.mark '=') => true
  | _ => false

def header? (inner : List Tree) : Option Line :=
  match inner with
  | [.brackets inner] => (key? inner).map .element
  | inner => (key? inner).map .table

def entry? (trees : List Tree) : Option Line := do
  let key ← key? (trees.takeWhile fun tree => !isEquals tree)
  let right := (trees.dropWhile fun tree => !isEquals tree).drop 1
  return .entry key (← Form.ofTree? (← single (right.dropWhile Tree.isBlank)))

def ofTrees? (trees : List Tree) : Option Line :=
  match trees with
  | .brackets inner :: later => if later.all Tree.isBlank then header? inner else none
  | trees => entry? trees

/-- The trees of each line, without the empty lines. -/
def split (trees : List Tree) : List (List Tree) :=
  ((trees.splitOnP Tree.isNewline).map fun line => line.dropWhile Tree.isBlank).filter
    fun line => !line.isEmpty

/-- A byte order mark in front of the text is skipped. -/
def withoutMark : Text → Text
  | '\ufeff' :: rest => rest
  | text => text

/-- The lines of a text. -/
def ofText? (text : Text) : Option (List Line) := do
  let trees ← Tree.ofTokens? (← Token.scan (withoutMark text))
  (split trees).mapM ofTrees?

end Line

end LuceneQuery.Toml
