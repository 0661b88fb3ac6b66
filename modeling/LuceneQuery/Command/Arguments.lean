import LuceneQuery.Text.Blank

/-!
# Command lines

A command, its flags and its words. Flags may stand anywhere before `--`, after which every
argument is a word. The first argument that does not fit, or asks for help, ends the reading.
-/

namespace LuceneQuery

set_option autoImplicit false

inductive Command where
  | escape (tokens : List Text) (force : Bool)
  | render (source : Text) (explain : Bool)
  | config
  | init (forHome force : Bool)

/-- A command and how much it is to tell about its work. -/
structure Invocation where
  command : Command
  verbosity : Nat

inductive Flag where
  | verbose
  | help
  | force
  | explain
  | forHome
  deriving DecidableEq, Repr

/-- Why there is nothing to run. -/
inductive Refusal where
  | helpAsked
  | misuse
  deriving DecidableEq, Repr

namespace Flag

def ofName (name : Text) : Option Flag :=
  match String.ofList name with
  | "verbose" => some .verbose
  | "help" => some .help
  | "force" => some .force
  | "explain" => some .explain
  | "global" => some .forHome
  | _ => none

def ofLetter : Char → Option Flag
  | 'v' => some .verbose
  | 'h' => some .help
  | _ => none

/-- The flags of one argument, unknown ones among them. A single hyphen is a word. -/
def ofArgument : Text → Option (List (Option Flag))
  | '-' :: '-' :: name => some [ofName name]
  | '-' :: first :: later => some ((first :: later).map ofLetter)
  | _ => none

end Flag

/-- The arguments read so far; only the verbosity flag may be repeated. -/
structure Given where
  verbosity : Nat := 0
  flags : List Flag := []
  words : List Text := []

namespace Given

def withFlag (accepted : List Flag) (given : Given) (flag : Option Flag) :
    Except Refusal Given :=
  match flag with
  | none => .error .misuse
  | some .help => .error .helpAsked
  | some .verbose => .ok { given with verbosity := given.verbosity + 1 }
  | some flag =>
      if accepted.contains flag && !given.flags.contains flag then
        .ok { given with flags := flag :: given.flags }
      else .error .misuse

def withWord (room : Option Nat) (given : Given) (word : Text) : Except Refusal Given :=
  if room.all fun most => given.words.length < most then
    .ok { given with words := given.words ++ [word] }
  else .error .misuse

def isEnd (argument : Text) : Bool := argument == ['-', '-']

/-- The arguments of a command that accepts some flags and has room for so many words. -/
def collect (accepted : List Flag) (room : Option Nat) :
    Given → List Text → Except Refusal Given
  | given, [] => .ok given
  | given, argument :: later =>
      if isEnd argument then later.foldlM (withWord room) given
      else do
        let changed ←
          match Flag.ofArgument argument with
          | some flags => flags.foldlM (withFlag accepted) given
          | none => given.withWord room argument
        collect accepted room changed later

def has (given : Given) (flag : Flag) : Bool := given.flags.contains flag

end Given

namespace Invocation

/-- A command's own verbosity flags count, if it has any, instead of those before it. -/
def make (outer : Nat) (given : Given) (command : Command) : Invocation :=
  ⟨command, if given.verbosity = 0 then outer else given.verbosity⟩

def commandNames : List String := ["escape", "render", "config", "init", "help"]

/-- Help can be asked for on one command at most. -/
def helpOn : List Text → Refusal
  | [] => .helpAsked
  | [name] => if commandNames.contains (String.ofList name) then .helpAsked else .misuse
  | _ => .misuse

def ofCommand (outer : Nat) (name : Text) (arguments : List Text) :
    Except Refusal Invocation :=
  match String.ofList name with
  | "escape" => do
      let given ← Given.collect [.force] none {} arguments
      match given.words with
      | [] => .error .misuse
      | tokens => return make outer given (.escape tokens (given.has .force))
  | "render" => do
      let given ← Given.collect [.explain] (some 1) {} arguments
      match given.words with
      | [source] => return make outer given (.render source (given.has .explain))
      | _ => .error .misuse
  | "config" => do
      let given ← Given.collect [] (some 0) {} arguments
      return make outer given .config
  | "init" => do
      let given ← Given.collect [.forHome, .force] (some 0) {} arguments
      return make outer given (.init (given.has .forHome) (given.has .force))
  | "help" => .error (helpOn arguments)
  | _ => .error .misuse

def readFrom (given : Given) : List Text → Except Refusal Invocation
  | [] => .error .misuse
  | argument :: later =>
      if Given.isEnd argument then .error .misuse
      else
        match Flag.ofArgument argument with
        | some flags => do readFrom (← flags.foldlM (Given.withFlag []) given) later
        | none => ofCommand given.verbosity argument later

def read (arguments : List Text) : Except Refusal Invocation := readFrom {} arguments

end Invocation

end LuceneQuery
