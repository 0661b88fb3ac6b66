import LuceneQuery.Toml.Token
import LuceneQuery.Toml.Value

/-!
# Bracketed tokens

Tokens with their brackets and braces matched, so that what stands inside of an array or an
inline table is a smaller list and reading it is a recursion on the tree.
-/

namespace LuceneQuery.Toml

set_option autoImplicit false

inductive Tree where
  | leaf (token : Token)
  | brackets (inner : List Tree)
  | braces (inner : List Tree)

namespace Tree

inductive Shape where
  | bracket
  | brace
  deriving DecidableEq

def ofShape : Shape → List Tree → Tree
  | .bracket, inner => .brackets inner
  | .brace, inner => .braces inner

/-- The forest so far at this level and, from the inside out, what was open around it. All of
them hold their newest tree first. -/
structure Nesting where
  current : List Tree
  around : List (Shape × List Tree)

namespace Nesting

def push (nesting : Nesting) (tree : Tree) : Nesting :=
  { nesting with current := tree :: nesting.current }

def enter (nesting : Nesting) (shape : Shape) : Option Nesting :=
  if nesting.around.length < depthLimit then
    some ⟨[], (shape, nesting.current) :: nesting.around⟩
  else none

def leave (nesting : Nesting) (shape : Shape) : Option Nesting :=
  match nesting.around with
  | [] => none
  | (opened, outer) :: around =>
      if opened = shape then some ⟨ofShape shape nesting.current.reverse :: outer, around⟩
      else none

def step (nesting : Nesting) (token : Token) : Option Nesting :=
  match token with
  | .mark '[' => nesting.enter .bracket
  | .mark ']' => nesting.leave .bracket
  | .mark '{' => nesting.enter .brace
  | .mark '}' => nesting.leave .brace
  | token => some (nesting.push (.leaf token))

end Nesting

def ofTokens? (tokens : List Token) : Option (List Tree) := do
  let nesting ← tokens.foldlM Nesting.step ⟨[], []⟩
  if nesting.around.isEmpty then some nesting.current.reverse else none

def isBlank : Tree → Bool
  | .leaf .blank => true
  | _ => false

def isNewline : Tree → Bool
  | .leaf .newline => true
  | _ => false

end Tree

end LuceneQuery.Toml
