import LuceneQuery.Toml.Value

/-!
# Tables under construction

The lines of a TOML text add to tables that are not finished yet, and how a table came about
decides what may still be added to it: a header opens a table once, a table that was only
passed on the way to another may be opened later, and one made by a dotted key grows by dotted
keys alone. Values are finished from the start.
-/

namespace LuceneQuery.Toml

set_option autoImplicit false

inductive Origin where
  | header
  | passed
  | dotted
  deriving DecidableEq

/-- The tables of an array stand newest first, since only the newest is added to. -/
inductive Draft where
  | leaf (value : Value)
  | table (origin : Origin) (entries : List (Text × Draft))
  | tables (newest : List (Text × Draft)) (older : List (List (Text × Draft)))

namespace Draft

abbrev Entries := List (Text × Draft)

/-- The entry of the key is replaced, or made at its place in the order of the keys. -/
def update (key : Text) (change : Option Draft → Reading Draft) : Entries → Reading Entries
  | [] => (change none).map fun made => [(key, made)]
  | (name, held) :: later =>
      if name < key then (update key change later).map ((name, held) :: ·)
      else if name = key then (change (some held)).map fun made => (name, made) :: later
      else (change none).map fun made => (key, made) :: (name, held) :: later

/-- Changes the table at the end of a path. Tables on the way are made when they are missing; a
table with a header is closed to dotted keys. -/
def within (dotted : Bool) (change : Origin → Entries → Reading Entries) :
    List Text → Origin → Entries → Reading Entries
  | [], origin, entries => change origin entries
  | key :: path, _, entries =>
      update key
        (fun
          | none =>
              let origin := if dotted then Origin.dotted else .passed
              (within dotted change path origin []).map (table origin)
          | some (.leaf _) => .error .malformed
          | some (.table origin inner) =>
              if dotted && origin = .header then .error .malformed
              else (within dotted change path origin inner).map (table origin)
          | some (.tables newest older) =>
              (within dotted change path .header newest).map fun changed => tables changed older)
        entries

/-- A key and the path before it; dotted keys and plain ones do not mix in one table. -/
def insert (path : List Text) (key : Text) (value : Value) (origin : Origin)
    (entries : Entries) : Reading Entries :=
  within true
    (fun origin entries =>
      if decide (origin = .dotted) = path.isEmpty then .error .malformed
      else
        update key
          (fun
            | none => .ok (.leaf value)
            | some _ => .error .malformed)
          entries)
    path origin entries

/-- Opens the table of a header and fills it. -/
def openTable (path : List Text) (key : Text) (fill : Entries → Reading Entries)
    (entries : Entries) : Reading Entries :=
  within false
    (fun _ entries =>
      update key
        (fun
          | none => (fill []).map (table .header)
          | some (.table .passed inner) => (fill inner).map (table .header)
          | some _ => .error .malformed)
        entries)
    path .header entries

/-- Adds a table to the array of a header and fills it. -/
def openElement (path : List Text) (key : Text) (fill : Entries → Reading Entries)
    (entries : Entries) : Reading Entries :=
  within false
    (fun _ entries =>
      update key
        (fun
          | none => (fill []).map fun made => tables made []
          | some (.tables newest older) => (fill []).map fun made => tables made (newest :: older)
          | some _ => .error .malformed)
        entries)
    path .header entries

mutual

def finish : Draft → Value
  | .leaf value => value
  | .table _ entries => .table (finishEntries entries)
  | .tables newest older =>
      .array ((Value.table (finishEntries newest) :: finishTables older).reverse)

def finishEntries : List (Text × Draft) → List (Text × Value)
  | [] => []
  | (key, draft) :: later => (key, draft.finish) :: finishEntries later

def finishTables : List (List (Text × Draft)) → List Value
  | [] => []
  | entries :: older => .table (finishEntries entries) :: finishTables older

end

end Draft

end LuceneQuery.Toml
