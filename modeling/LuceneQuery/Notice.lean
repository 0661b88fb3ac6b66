import LuceneQuery.Settings.Discovery
import LuceneQuery.Settings.Template

/-!
# Notices

What a command tells about its work beside its result: one line for each notice, with the place
in the program that it comes from. How many are shown is the caller's choice.
-/

namespace LuceneQuery

set_option autoImplicit false

/-- From the most urgent on. -/
inductive Severity where
  | warning
  | information
  | detail
  deriving DecidableEq, Repr

namespace Severity

/-- All labels have the same width. -/
def label : Severity → String
  | .warning => " WARN"
  | .information => " INFO"
  | .detail => "DEBUG"

def rank : Severity → Nat
  | .warning => 0
  | .information => 1
  | .detail => 2

end Severity

inductive Notice where
  | settingsFile (path : Path) (root : Bool)
  | homeFile (path : Path)
  | settingsLoaded (files : List Text)
  | pinned (bound : Text)
  | unreadDate (bound : Text)
  | unreadEpoch (second : Int)
  | built (clauses : Nat)
  | emptyResult (source : Text)
  | templateWritten (template : Template)

namespace Notice

def severity : Notice → Severity
  | .emptyResult _ => .warning
  | .templateWritten _ => .information
  | _ => .detail

def place : Notice → String
  | .settingsFile _ _ => "lq_config::discovery"
  | .homeFile _ => "lq_config::discovery"
  | .settingsLoaded _ => "lq::cli::context"
  | .pinned _ => "lq_query::range"
  | .unreadDate _ => "lq_query::range"
  | .unreadEpoch _ => "lq_query::range"
  | .built _ => "lq::cli::commands::render"
  | .emptyResult _ => "lq::cli::commands::render"
  | .templateWritten _ => "lq::cli::commands::init"

def flagText (flag : Bool) : Text := if flag then "true".toList else "false".toList

def templateText : Template → Text
  | .forProject => "Local".toList
  | .forHome => "Global".toList

def wording : Notice → Text
  | .settingsFile path root =>
      "config file path=".toList ++ path.text ++ " root=".toList ++ flagText root
  | .homeFile path => "global config file path=".toList ++ path.text
  | .settingsLoaded files =>
      "loaded configuration files=[".toList ++
        List.intercalate [',', ' '] (files.map Text.quoted) ++ [']']
  | .pinned bound => "pinned relative date bound value=".toList ++ bound
  | .unreadDate bound => "unparseable date bound, rendering as text value=".toList ++ bound
  | .unreadEpoch second =>
      "epoch out of range, rendering as integer value=".toList ++ Decimal.integerText second
  | .built clauses => "built query clauses=".toList ++ Decimal.integerText clauses
  | .emptyResult source => "query renders to an empty string file=".toList ++ source
  | .templateWritten template =>
      "wrote configuration template template=".toList ++ templateText template

def line (notice : Notice) : Text :=
  notice.severity.label.toList ++ ' ' :: notice.place.toList ++ [':', ' '] ++ notice.wording ++
    ['\n']

/-- Warnings are always shown; a higher verbosity shows more. -/
def isShownAt (verbosity : Nat) (notice : Notice) : Bool := notice.severity.rank ≤ verbosity

end Notice

end LuceneQuery
