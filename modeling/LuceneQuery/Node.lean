import LuceneQuery.Range
import LuceneQuery.Term

/-!
# Clauses

A query is a tree of clauses: terms, ranges, groups of terms and groups of clauses. A group
joins what its children render to; children that render to nothing are left out, one that is
left alone stands for the group, and several are put in parentheses.
-/

namespace LuceneQuery

set_option autoImplicit false

/-- The joined text of clauses that are rendered already. -/
def joinRendered (operator : Operator) (rendered : List Text) : Text :=
  match rendered.filter fun text => !text.isEmpty with
  | [] => []
  | [single] => single
  | several => '(' :: List.intercalate (' ' :: operator.keyword ++ [' ']) several ++ [')']

structure TermGroup where
  terms : List Term
  operator : Operator
  decoration : Decoration

namespace TermGroup

def ofOperator (operator : Operator) : TermGroup := ⟨[], operator, .plain⟩

instance : Decorated TermGroup where
  decoration := decoration
  redecorate group decoration := { group with decoration := decoration }
  decoration_redecorate _ _ := rfl
  redecorate_decoration _ := rfl

def add (group : TermGroup) (term : Term) : TermGroup :=
  { group with terms := group.terms ++ [term] }

def addAll (group : TermGroup) (terms : List Term) : TermGroup :=
  { group with terms := group.terms ++ terms }

def setOperator (group : TermGroup) (operator : Operator) : TermGroup :=
  { group with operator := operator }

def isEmpty (group : TermGroup) : Bool := group.terms.all fun term => term.render.isEmpty

def content (group : TermGroup) : Text := joinRendered group.operator (group.terms.map Term.render)

def render (group : TermGroup) : Text := group.decoration.apply group.content

end TermGroup

inductive Node where
  | term (held : Term)
  | range (held : Range)
  | terms (held : TermGroup)
  | group (operator : Operator) (children : List Node) (decoration : Decoration)

namespace Node

def decoration : Node → Decoration
  | .term held => held.decoration
  | .range held => held.decoration
  | .terms held => held.decoration
  | .group _ _ decoration => decoration

def redecorate (node : Node) (decoration : Decoration) : Node :=
  match node with
  | .term held => .term { held with decoration := decoration }
  | .range held => .range { held with decoration := decoration }
  | .terms held => .terms { held with decoration := decoration }
  | .group operator children _ => .group operator children decoration

instance : Decorated Node where
  decoration := decoration
  redecorate := redecorate
  decoration_redecorate node _ := by cases node <;> rfl
  redecorate_decoration node := by cases node <;> rfl

mutual

def render : Node → Text
  | .term held => held.render
  | .range held => held.render
  | .terms held => held.render
  | .group operator children decoration =>
      decoration.apply (joinRendered operator (renderAll children))

def renderAll : List Node → List Text
  | [] => []
  | child :: later => child.render :: renderAll later

end

theorem render_all_eq_map (children : List Node) : renderAll children = children.map render := by
  induction children with
  | nil => rfl
  | cons child later ih => simp [renderAll, ih]

def content : Node → Text
  | .term held => held.content
  | .range held => held.content
  | .terms held => held.content
  | .group operator children _ => joinRendered operator (renderAll children)

/-- A term with a blank value is not empty, though it renders to nothing. -/
def isEmpty : Node → Bool
  | .term held => held.isEmpty
  | .range held => held.isEmpty
  | .terms held => held.isEmpty
  | .group _ children _ => children.all fun child => child.render.isEmpty

theorem render_eq_apply (node : Node) : node.render = node.decoration.apply node.content := by
  cases node <;> simp [render, decoration, content, Term.render, Range.render, TermGroup.render]

end Node

end LuceneQuery
