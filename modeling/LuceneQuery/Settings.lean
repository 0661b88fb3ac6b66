import LuceneQuery.FileTree
import LuceneQuery.Operator
import LuceneQuery.Toml.Schema
import LuceneQuery.Toml.Writer

/-!
# Settings

What a document may leave out, with a value for each of it. A settings file overrides some of
the values; of several files the nearest one that has a value decides. A file is read as it is
written, and its operators are looked at only when files are merged.
-/

namespace LuceneQuery

set_option autoImplicit false

/-- How the clauses of a document are joined, how the terms of a group of terms are, and the
field of a clause that names none. -/
structure Settings where
  operator : Operator := .and
  collectionOperator : Operator := .or
  defaultField : Text := []
  deriving DecidableEq

/-- The values that a settings file has, as they stand there. -/
structure Overrides where
  operator : Option Text := none
  collectionOperator : Option Text := none
  defaultField : Option Text := none
  deriving DecidableEq

/-- A root file hides the files farther away. -/
structure SettingsFile where
  root : Option Bool := none
  query : Option Overrides := none
  deriving DecidableEq

inductive SettingsError where
  | unreadable (path : Text) (problem : FileError)
  | malformed (path : Text) (problem : Toml.ReadError)
  | refused (path : Text) (setting : String) (problem : QueryError)

namespace SettingsError

def message : SettingsError → String
  | .unreadable path problem =>
      "failed to read config file " ++ String.ofList path ++ ": " ++ problem.message
  | .malformed path problem =>
      "failed to parse config file " ++ String.ofList path ++ ": " ++ problem.message
  | .refused path setting problem =>
      "invalid value for " ++ setting ++ " in " ++ String.ofList path ++ ": " ++ problem.message

def suggestion : SettingsError → Option String
  | .refused _ _ problem => problem.suggestion
  | _ => none

end SettingsError

namespace Overrides

def fieldNames : List String := ["operator", "collection_operator", "default_field"]

def withField (overrides : Overrides) (name : Text) (value : Toml.Value) :
    Toml.Decoded Overrides :=
  match String.ofList name with
  | "operator" => do return { overrides with operator := some (← value.text?) }
  | "collection_operator" => do
      return { overrides with collectionOperator := some (← value.text?) }
  | "default_field" => do return { overrides with defaultField := some (← value.text?) }
  | _ => .error (.unknownField name fieldNames)

def ofValue? (value : Toml.Value) : Toml.Decoded Overrides := do
  let fields ← Toml.recordFields "struct RawQuerySettings" fieldNames value
  fields.foldlM (fun overrides (name, value) => overrides.withField name value) {}

end Overrides

namespace SettingsFile

def fieldNames : List String := ["root", "query"]

def withField (file : SettingsFile) (name : Text) (value : Toml.Value) :
    Toml.Decoded SettingsFile :=
  match String.ofList name with
  | "root" => do return { file with root := some (← value.flag?) }
  | "query" => do return { file with query := some (← Overrides.ofValue? value) }
  | _ => .error (.unknownField name fieldNames)

def ofTable? (table : Toml.Table) : Toml.Decoded SettingsFile :=
  table.foldlM (fun file (name, value) => file.withField name value) {}

def read (text : Text) : Except Toml.ReadError SettingsFile := Toml.decode ofTable? text

end SettingsFile

/-- A settings file and the path that reports name it by. -/
structure NamedFile where
  path : Text
  content : SettingsFile

namespace NamedFile

def read (path text : Text) : Except SettingsError NamedFile :=
  match SettingsFile.read text with
  | .ok content => .ok ⟨path, content⟩
  | .error problem => .error (.malformed path problem)

def readOperator (path : Text) (setting : String) (standing : Operator) :
    Option Text → Except SettingsError Operator
  | none => .ok standing
  | some given =>
      match Operator.read given with
      | .ok operator => .ok operator
      | .error problem => .error (.refused path setting problem)

/-- The default field is trimmed, so a blank one stands for none. -/
def applyTo (file : NamedFile) (settings : Settings) : Except SettingsError Settings :=
  match file.content.query with
  | none => .ok settings
  | some overrides => do
      let operator ←
        readOperator file.path "query.operator" settings.operator overrides.operator
      let collectionOperator ←
        readOperator file.path "query.collection_operator" settings.collectionOperator
          overrides.collectionOperator
      let defaultField :=
        match overrides.defaultField with
        | none => settings.defaultField
        | some given => Text.trim given
      return ⟨operator, collectionOperator, defaultField⟩

end NamedFile

namespace Settings

/-- The nearest file comes first and is applied last. A file is checked even where a nearer one
decides. -/
def merge : List NamedFile → Except SettingsError Settings
  | [] => .ok {}
  | nearest :: farther => do nearest.applyTo (← merge farther)

def write (settings : Settings) : Text :=
  "[query]\n".toList ++ Toml.writeEntry "operator" settings.operator.keyword ++
    Toml.writeEntry "collection_operator" settings.collectionOperator.keyword ++
    Toml.writeEntry "default_field" settings.defaultField

end Settings

/-- The settings in force and the files that they come from, nearest first. -/
structure Effective where
  settings : Settings
  files : List Text

def Effective.ofFiles (files : List NamedFile) : Except SettingsError Effective := do
  return ⟨← Settings.merge files, files.map NamedFile.path⟩

end LuceneQuery
