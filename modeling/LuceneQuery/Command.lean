import LuceneQuery.Command.Arguments
import LuceneQuery.Notice.Trail

/-!
# Running a command

What a command does with what it finds: the files, the home and working directories, standard
input and the clock. Its outcome is what it prints, the notices it gives and the files after it.
-/

namespace LuceneQuery

set_option autoImplicit false

structure Surroundings where
  tree : FileTree
  home : Option Path
  directory : Path
  input : ByteArray
  now : Clock

inductive Status where
  | success
  | failure
  | misuse
  deriving DecidableEq, Repr

def Status.code : Status → Nat
  | .success => 0
  | .failure => 1
  | .misuse => 2

/-- Notices come before the complaint of a command that fails. -/
structure Outcome where
  status : Status
  output : Text
  notices : List Notice
  complaint : Text
  tree : FileTree

namespace Outcome

def errorText (outcome : Outcome) (verbosity : Nat) : Text :=
  (outcome.notices.filter fun notice => notice.isShownAt verbosity).flatMap Notice.line ++
    outcome.complaint

def done (tree : FileTree) (notices : List Notice) (output : Text) : Outcome :=
  ⟨.success, output, notices, [], tree⟩

/-- A line for what went wrong and, where there is one, a line with a hint. -/
def failed (tree : FileTree) (notices : List Notice) (problem : String) (hint : Option String) :
    Outcome :=
  let lines := ("error: " ++ problem) :: hint.toList
  ⟨.failure, [], notices, lines.flatMap fun line => line.toList ++ ['\n'], tree⟩

end Outcome

namespace Surroundings

def escape (around : Surroundings) (tokens : List Text) (force : Bool) : Outcome :=
  .done around.tree [] (tokens.flatMap fun token => LuceneQuery.escape token force ++ ['\n'])

/-- Runs what needs the settings. -/
def withSettings (around : Surroundings)
    (andThen : List Notice → Effective → Outcome) : Outcome :=
  let found := Notice.ofDiscovery around.tree around.home around.directory
  match Settings.load around.tree around.home around.directory with
  | .ok effective => andThen (found ++ [.settingsLoaded effective.files]) effective
  | .error problem =>
      .failed around.tree found ("failed to load configuration: " ++ problem.message)
        problem.suggestion

def settingsText (effective : Effective) : Text :=
  let sources :=
    match effective.files with
    | [] => "# no configuration files found, showing defaults\n".toList
    | files => files.flatMap fun file => ['#', ' '] ++ file ++ ['\n']
  sources ++ effective.settings.write

def config (around : Surroundings) : Outcome :=
  around.withSettings fun notices effective =>
    .done around.tree notices (settingsText effective)

/-- A single hyphen stands for standard input. -/
def readSource (around : Surroundings) (source : Text) : Except DocumentError Text :=
  let (name, contents) :=
    if source == ['-'] then ("<stdin>".toList, FileTree.textOf around.input)
    else (source, around.tree.readFrom around.directory source)
  match contents with
  | .ok text => .ok text
  | .error problem => .error (.unreadable name problem)

def queryText (query : Query) (explain : Bool) : Text :=
  if explain then query.explain else query.render ++ ['\n']

def render (around : Surroundings) (source : Text) (explain : Bool) : Outcome :=
  around.withSettings fun notices effective =>
    let document := do Document.read (← around.readSource source)
    let pinned :=
      match document with
      | .ok document => Notice.ofBuilding document effective.settings around.now
      | .error _ => []
    match document >>= fun document => document.build effective.settings around.now with
    | .error problem =>
        .failed around.tree (notices ++ pinned) problem.message problem.suggestion
    | .ok query =>
        let rendering := if explain then [] else Notice.ofRendering query source
        .done around.tree (notices ++ pinned ++ .built query.children.length :: rendering)
          (queryText query explain)

/-- In the home directory the file made is the one for the home directory. -/
def newFile (around : Surroundings) (forHome : Bool) : Option (Path × Template) :=
  if forHome || around.home.any around.directory.isSame then
    (Settings.homeFile around.home).map fun path => (path, .forHome)
  else some (around.directory.child Settings.fileName, .forProject)

def encoded (text : Text) : ByteArray := (String.ofList text).toUTF8

def init (around : Surroundings) (forHome force : Bool) : Outcome :=
  match around.newFile forHome with
  | none => .failed around.tree [] "could not determine home directory" none
  | some (path, template) =>
      let name := String.ofList path.text
      if around.tree.isThere path && !force then
        .failed around.tree [] ("configuration file already exists: " ++ name)
          (some "use --force to overwrite")
      else
        match around.tree.write path (encoded template.text) with
        | .error problem =>
            .failed around.tree [] ("failed to write " ++ name ++ ": " ++ problem.message) none
        | .ok tree =>
            .done tree [.templateWritten template] ("Created ".toList ++ path.text ++ ['\n'])

def run (around : Surroundings) : Command → Outcome
  | .escape tokens force => around.escape tokens force
  | .render source explain => around.render source explain
  | .config => around.config
  | .init forHome force => around.init forHome force

end Surroundings

def helpLines : List String :=
  ["Build and render Lucene query strings",
    "",
    "Usage: lq [OPTIONS] <COMMAND>",
    "",
    "Commands:",
    "  escape  Escape tokens for safe inclusion in a query",
    "  render  Render a TOML query document to a query string",
    "  config  Show effective configuration settings",
    "  init    Initialize lq configuration in current directory",
    "  help    Print this message or the help of the given subcommand(s)",
    "",
    "Options:",
    "  -v, --verbose...  Increase log output (-v info, -vv debug, -vvv trace)",
    "  -h, --help        Print help"]

def helpText : Text := helpLines.flatMap fun line => line.toList ++ ['\n']

/-- What a run leaves: its exit code, its texts and the files after it. -/
structure Printed where
  code : Nat
  output : Text
  errors : Text
  tree : FileTree

/-- Arguments that make no command change nothing. -/
def runArguments (around : Surroundings) (arguments : List Text) : Printed :=
  match Invocation.read arguments with
  | .ok invocation =>
      let outcome := around.run invocation.command
      ⟨outcome.status.code, outcome.output, outcome.errorText invocation.verbosity, outcome.tree⟩
  | .error .helpAsked => ⟨Status.success.code, helpText, [], around.tree⟩
  | .error .misuse =>
      ⟨Status.misuse.code, [], "error: the arguments make no command\n".toList ++ helpText,
        around.tree⟩

end LuceneQuery
