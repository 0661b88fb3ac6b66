import LuceneQuery.Explain

/-!
# Building a query

A query is a group of clauses that is still being built. Clauses are added at the end. Some calls
add a clause that the caller then sets up where it stands; others set one up before they add it,
and stop where a setter refuses. Added to another query, a query is one clause of it.
-/

namespace LuceneQuery

set_option autoImplicit false

structure Query where
  operator : Operator
  children : List Node
  decoration : Decoration

namespace Query

def ofOperator (operator : Operator) : Query := ⟨operator, [], .plain⟩

instance : Decorated Query where
  decoration := decoration
  redecorate query decoration := { query with decoration := decoration }
  decoration_redecorate _ _ := rfl
  redecorate_decoration _ := rfl

def toNode (query : Query) : Node := .group query.operator query.children query.decoration

def render (query : Query) : Text := query.toNode.render

def content (query : Query) : Text := query.toNode.content

def isEmpty (query : Query) : Bool := query.toNode.isEmpty

def explain (query : Query) : Text := query.toNode.explain

def add (query : Query) (node : Node) : Query :=
  { query with children := query.children ++ [node] }

def setOperator (query : Query) (operator : Operator) : Query :=
  { query with operator := operator }

/-- Sets a clause up where it stands. -/
def changeAt (query : Query) (index : Nat) (change : Node → Node) : Query :=
  { query with children := query.children.modify index change }

/-- Adds a clause and tells where it stands. -/
def push (query : Query) (node : Node) : Nat × Query := (query.children.length, query.add node)

/-- The caller of a call that makes a clause holds it by its kind. -/
def onTerm (change : Term → Term) : Node → Node
  | .term held => .term (change held)
  | other => other

def onRange (change : Range → Range) : Node → Node
  | .range held => .range (change held)
  | other => other

def onTerms (change : TermGroup → TermGroup) : Node → Node
  | .terms held => .terms (change held)
  | other => other

def onGroup (change : Query → Query) : Node → Node
  | .group operator children decoration => (change ⟨operator, children, decoration⟩).toNode
  | other => other

def createTerm (query : Query) (configure : Term → Term) : Query :=
  let (index, held) := query.push (.term .unset)
  held.changeAt index (onTerm configure)

def createRange (query : Query) (configure : Range → Range) : Query :=
  let (index, held) := query.push (.range (.unset .plain))
  held.changeAt index (onRange configure)

def createDateRange (query : Query) (field : Option Text) (configure : Range → Range) : Query :=
  let (index, held) := query.push (.range (.unset .date))
  let fielded := held.changeAt index (onRange fun range => Decorated.setField range (field.getD []))
  fielded.changeAt index (onRange configure)

def createTermGroup (query : Query) (operator : Operator) (configure : TermGroup → TermGroup) :
    Query :=
  let (index, held) := query.push (.terms (.ofOperator operator))
  held.changeAt index (onTerms configure)

def createGroup (query : Query) (operator : Operator) (configure : Query → Query) : Query :=
  let (index, held) := query.push (ofOperator operator).toNode
  held.changeAt index (onGroup configure)

/-- A prepared term keeps its exclusion; its fuzziness, boost and field are set anew. -/
def matchTerm (query : Query) (field : Option Text) (term : Term)
    (boost fuzziness : Option Float) : Change Query :=
  let prepared := (term.setFuzziness fuzziness).andThen fun fuzzy =>
    Decorated.setBoost fuzzy (boost.getD 0)
  match prepared.outcome with
  | .ok () => .made (query.add (.term (Decorated.setField prepared.after (field.getD []))))
  | .error problem => .refused problem query

def addTerm (query : Query) (field : Option Text) (term : Term) (exclusion : Exclusion) : Query :=
  query.add (.term (Decorated.setField (Decorated.setExclusion term exclusion) (field.getD [])))

def requireTerm (query : Query) (field : Option Text) (term : Term) : Query :=
  query.addTerm field term .require

def prohibitTerm (query : Query) (field : Option Text) (term : Term) : Query :=
  query.addTerm field term .prohibit

/-- The clock is read once for each bound, as `Range.setRange` does. -/
def addRange (query : Query) (format : BoundFormat) (now : Timestamp) (field : Option Text)
    (start stop : Bound) (inclusive : Bool) (exclusion : Exclusion) (later : Timestamp := now) :
    Query :=
  let range := ((Range.unset format).setInclusive inclusive).setRange now start stop later
  query.add
    (.range (Decorated.setExclusion (Decorated.setField range (field.getD [])) exclusion))

def matchRange (query : Query) (now : Timestamp) (field : Option Text) (start stop : Bound)
    (inclusive : Bool) (later : Timestamp := now) : Query :=
  query.addRange .plain now field start stop inclusive .none later

def requireRange (query : Query) (now : Timestamp) (field : Option Text) (start stop : Bound)
    (inclusive : Bool) (later : Timestamp := now) : Query :=
  query.addRange .plain now field start stop inclusive .require later

def prohibitRange (query : Query) (now : Timestamp) (field : Option Text) (start stop : Bound)
    (inclusive : Bool) (later : Timestamp := now) : Query :=
  query.addRange .plain now field start stop inclusive .prohibit later

def requireDateRange (query : Query) (now : Timestamp) (field : Option Text) (start stop : Bound)
    (inclusive : Bool) (later : Timestamp := now) : Query :=
  query.addRange .date now field start stop inclusive .require later

def termGroup (field : Option Text) (terms : List Term) (operator : Operator) : TermGroup :=
  Decorated.setField ((TermGroup.ofOperator operator).addAll terms) (field.getD [])

def matchTermGroup (query : Query) (field : Option Text) (terms : List Term)
    (boost : Option Float) (operator : Operator) : Change Query :=
  let prepared := Decorated.setBoost (termGroup field terms operator) (boost.getD 0)
  match prepared.outcome with
  | .ok () => .made (query.add (.terms prepared.after))
  | .error problem => .refused problem query

def addTermGroup (query : Query) (field : Option Text) (terms : List Term) (operator : Operator)
    (exclusion : Exclusion) : Query :=
  query.add (.terms (Decorated.setExclusion (termGroup field terms operator) exclusion))

def requireTermGroup (query : Query) (field : Option Text) (terms : List Term)
    (operator : Operator) : Query :=
  query.addTermGroup field terms operator .require

def prohibitTermGroup (query : Query) (field : Option Text) (terms : List Term)
    (operator : Operator) : Query :=
  query.addTermGroup field terms operator .prohibit

end Query

end LuceneQuery
