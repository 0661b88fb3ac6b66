import LuceneQuery.Toml.Key
import LuceneQuery.Toml.Tree

/-!
# The form of TOML values

A value with all its marks in place, whose keys and words are still to be read. A text is
brought into its form as a whole before anything in it is read.
-/

namespace LuceneQuery.Toml

set_option autoImplicit false

inductive Form where
  | scalar (token : Token)
  | array (items : List Form)
  | table (entries : List (KeyForm × Form))

namespace Form

/-- Where the reader of an inline table stands. The tokens of a key come newest first. -/
inductive Stage where
  | entry
  | key (tokens : List Token)
  | value (key : KeyForm)
  | comma

def isGap : Token → Bool
  | .blank => true
  | .newline => true
  | _ => false

mutual

def ofTree? : Tree → Option Form
  | .leaf (.string content) => some (.scalar (.string content))
  | .leaf (.block content) => some (.scalar (.block content))
  | .leaf (.word spelled) => some (.scalar (.word spelled))
  | .leaf _ => none
  | .brackets inner => (elements true inner).map .array
  | .braces inner => (fields .entry inner).map .table

/-- The values of an array; a comma may follow the last of them. -/
def elements (expected : Bool) : List Tree → Option (List Form)
  | [] => some []
  | item :: later =>
      match item with
      | .leaf .blank => elements expected later
      | .leaf .newline => elements expected later
      | .leaf (.mark ',') => if expected then none else elements true later
      | item =>
          if expected then do
            let form ← ofTree? item
            return form :: (← elements false later)
          else none

/-- Lines may end anywhere but inside of a key. -/
def fields (stage : Stage) : List Tree → Option (List (KeyForm × Form))
  | [] =>
      match stage with
      | .entry => some []
      | .comma => some []
      | _ => none
  | item :: later =>
      match stage, item with
      | stage, .leaf .blank => fields stage later
      | .key tokens, .leaf (.mark '=') => do
          fields (.value (← KeyForm.ofTokens? (tokens.dropWhile isGap).reverse)) later
      | .key tokens, .leaf token => fields (.key (token :: tokens)) later
      | stage, .leaf .newline => fields stage later
      | .comma, .leaf (.mark ',') => fields .entry later
      | .entry, .leaf token => fields (.key [token]) later
      | .value key, item => do
          let form ← ofTree? item
          return (key, form) :: (← fields .comma later)
      | _, _ => none

end

end Form

end LuceneQuery.Toml
