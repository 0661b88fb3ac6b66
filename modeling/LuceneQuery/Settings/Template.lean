import LuceneQuery.Text.Blank

/-!
# Settings templates

The texts of new settings files. Every value in them is the one that holds without a file, so
a new file changes nothing until it is edited.
-/

namespace LuceneQuery

set_option autoImplicit false

inductive Template where
  | forProject
  | forHome
  deriving DecidableEq, Repr

namespace Template

def projectLines : List String :=
  ["# lq configuration",
    "#",
    "# Settings in this file apply to `lq render` in this directory and below. Files closer to",
    "# the working directory take precedence; ~/.lq.toml is consulted last.",
    "",
    "# Stop looking for configuration in parent directories and ~/.lq.toml.",
    "root = false",
    "",
    "[query]",
    "# Operator joining the top-level clauses of a document.",
    "operator = \"AND\"",
    "# Default operator for `terms` clauses that do not name one.",
    "collection_operator = \"OR\"",
    "# Field applied to clauses that do not name one. Empty means the engine default field.",
    "default_field = \"\""]

def homeLines : List String :=
  ["# Global lq configuration (~/.lq.toml)",
    "#",
    "# Lowest precedence: any .lq.toml between the working directory and the filesystem root",
    "# overrides these values.",
    "",
    "[query]",
    "operator = \"AND\"",
    "collection_operator = \"OR\""]

def lines : Template → List String
  | .forProject => projectLines
  | .forHome => homeLines

def text (template : Template) : Text := template.lines.flatMap fun line => line.toList ++ ['\n']

end Template

end LuceneQuery
