import LuceneQuery.Document
import LuceneQuery.Notice

/-!
# The notices of each step

Which notices finding the settings, building a query and writing it give rise to, in the order
of the work. A step that fails leaves the notices from before the failure.
-/

namespace LuceneQuery.Notice

set_option autoImplicit false

def ofDiscovery (tree : FileTree) (home : Option Path) (directory : Path) : List Notice :=
  let chain := Settings.chain tree directory.ancestors
  chain.map (fun path => settingsFile path (Settings.isRoot tree path)) ++
    (Settings.afterChain tree home chain).map homeFile

/-- Bounds whose relative word is replaced by an instant. -/
def ofStored (now : Timestamp) (given : Option Scalar) : List Notice :=
  match given with
  | some (.text word) => if (Timestamp.ofRelativeWord now word).isSome then [pinned word] else []
  | _ => []

mutual

def ofClause (settings : Settings) (clock : Clock) (position : Position) : Clause → List Notice
  | ⟨options, clauses⟩ =>
      match Clause.checkOptions ⟨options, clauses⟩, options.kind with
      | .ok _, .dateRange =>
          ofStored (clock.start position) options.start ++
            ofStored (clock.stop position) options.stop
      | .ok _, .group =>
          match options.groupOperator settings, clauses with
          | .ok _, some nested => ofClauses settings clock position 1 nested
          | _, _ => []
      | _, _ => []

def ofClauses (settings : Settings) (clock : Clock) (position : Position) (number : Nat) :
    List Clause → List Notice
  | [] => []
  | clause :: later =>
      ofClause settings clock (position ++ [number]) clause ++
        match clause.build settings clock (position ++ [number]) with
        | .ok _ => ofClauses settings clock position (number + 1) later
        | .error _ => []

end

def ofBuilding (document : Document) (settings : Settings) (clock : Clock) : List Notice :=
  match resolveOperator document.operator settings.operator with
  | .ok _ => ofClauses settings clock [] 1 document.clauses
  | .error _ => []

/-- Bounds that a date range writes as they are, because they are no dates to it. -/
def ofWritten (format : BoundFormat) (bound : Bound) : List Notice :=
  match format, BoundFormat.instant? bound, bound with
  | .date, none, .text given => [unreadDate given]
  | .date, none, .integer second => [unreadEpoch second]
  | _, _, _ => []

mutual

def ofNode : Node → List Notice
  | .range held =>
      if held.isEmpty then []
      else ofWritten held.format held.start ++ ofWritten held.format held.stop
  | .group _ children _ => ofNodes children
  | _ => []

def ofNodes : List Node → List Notice
  | [] => []
  | child :: later => ofNode child ++ ofNodes later

end

/-- Whether a query is empty is known at the first child that is not. -/
def ofEmptiness : List Node → List Notice
  | [] => []
  | child :: later => ofNode child ++ if child.render.isEmpty then ofEmptiness later else []

/-- A query is first asked whether it is empty and then written. -/
def ofRendering (query : Query) (source : Text) : List Notice :=
  ofEmptiness query.children ++ (if query.isEmpty then [emptyResult source] else []) ++
    ofNodes query.children

end LuceneQuery.Notice
