/-!
# Arguments of the command line

What the arguments of a run ask for. They are read from left to right: options in front of the
command, its name, and then its values, among which options may stand too. Two hyphens end the
options. The first argument that does not fit, and the first that asks for help or for the version,
decides.
-/

namespace Newsstand

/-- A command. -/
inductive Command where
  | list (user : String)
  | subscribe (user url : String)
  | unsubscribe (user url : String)
  | importFile (user file : String)
  | health
  deriving DecidableEq, Repr

/-- What a run is asked for. -/
inductive Invocation where
  /-- A command, with the path of the configuration if it is given. -/
  | command (config? : Option String) (command : Command)
  | version
  | help
  | wrong
  deriving DecidableEq, Repr

/-- The kinds of commands. -/
inductive Verb where
  | list
  | subscribe
  | unsubscribe
  | importFile
  | health
  deriving DecidableEq, Repr

namespace Verb

/-- The name of a command. -/
def name : Verb → String
  | .list => "list"
  | .subscribe => "subscribe"
  | .unsubscribe => "unsubscribe"
  | .importFile => "import"
  | .health => "health"

/-- The command of a name. -/
def ofName? (text : String) : Option Verb :=
  [Verb.list, .subscribe, .unsubscribe, .importFile, .health].find? (·.name == text)

/-- The number of values of a command. -/
def arity : Verb → Nat
  | .list => 1
  | .subscribe => 2
  | .unsubscribe => 2
  | .importFile => 2
  | .health => 0

/-- Whether a command takes a text as the value behind `before` others; the path of a file may not
be empty. -/
def takes (verb : Verb) (before : Nat) (text : String) : Bool :=
  before < verb.arity && !(verb == .importFile && before == 1 && text.isEmpty)

/-- The command with its values. -/
def command? : Verb → List String → Option Command
  | .list, [user] => some (.list user)
  | .subscribe, [user, url] => some (.subscribe user url)
  | .unsubscribe, [user, url] => some (.unsubscribe user url)
  | .importFile, [user, file] => some (.importFile user file)
  | .health, [] => some .health
  | _, _ => none

end Verb

/-- The kinds of arguments. -/
inductive Argument where
  /-- The option for the configuration, with its value if that is part of the argument. -/
  | config (value? : Option String)
  | version
  | help
  | unknownOption
  /-- The end of the options. -/
  | endOfOptions
  | value (text : String)
  deriving DecidableEq, Repr

/-- The kind of an argument; a hyphen alone is a value. -/
def Argument.of (text : String) : Argument :=
  match text.toList with
  | ['-', '-'] => .endOfOptions
  | '-' :: '-' :: _ =>
    if text == "--config" then .config none
    else if text == "--version" then .version
    else if text == "--help" then .help
    else if "--config=".toList.isPrefixOf text.toList then
      .config (some (String.ofList (text.toList.drop "--config=".length)))
    else .unknownOption
  | '-' :: 'V' :: _ => .version
  | '-' :: 'h' :: _ => .help
  | '-' :: _ :: _ => .unknownOption
  | _ => .value text

namespace Invocation

/-- Takes the path of the configuration, which has to be a text that is not empty and must not be
there already. -/
def takeConfig (config? : Option String) (text : String) : Option String :=
  match config?, Argument.of text with
  | none, .value _ => if text.isEmpty then none else some text
  | _, _ => none

/-- Reads the arguments behind the name of a command. `literal` says whether the options have ended,
`values` holds the values so far, and `outer?` the configuration that stands before the name; one
that stands behind it counts instead. -/
def readValues (verb : Verb) (outer? config? : Option String) (literal : Bool)
    (values : List String) : List String → Invocation
  | [] =>
    match verb.command? values with
    | some asked => .command (config?.or outer?) asked
    | none => .wrong
  | text :: rest =>
    match if literal then .value text else Argument.of text with
    | .value text =>
      if verb.takes values.length text then
        readValues verb outer? config? literal (values ++ [text]) rest
      else .wrong
    | .endOfOptions => readValues verb outer? config? true values rest
    | .help => .help
    | .version => .wrong
    | .unknownOption => .wrong
    | .config (some given) =>
      if given.isEmpty || config?.isSome then .wrong
      else readValues verb outer? (some given) literal values rest
    | .config none =>
      match rest with
      | [] => .wrong
      | given :: rest =>
        match takeConfig config? given with
        | none => .wrong
        | some given => readValues verb outer? (some given) literal values rest

/-- Reads the arguments behind the request for help: it may name a command, or itself. -/
def readHelp : List String → Invocation
  | [] => .help
  | [name] => if (Verb.ofName? name).isSome || name == "help" then .help else .wrong
  | _ => .wrong

/-- Reads the arguments of a run. -/
def read (config? : Option String) : List String → Invocation
  | [] => .wrong
  | text :: rest =>
    match Argument.of text with
    | .value name =>
      match Verb.ofName? name with
      | some verb => readValues verb config? none false [] rest
      | none => if name == "help" then readHelp rest else .wrong
    | .endOfOptions => .wrong
    | .help => .help
    | .version => .version
    | .unknownOption => .wrong
    | .config (some given) =>
      if given.isEmpty || config?.isSome then .wrong else read (some given) rest
    | .config none =>
      match rest with
      | [] => .wrong
      | given :: rest =>
        match takeConfig config? given with
        | none => .wrong
        | some given => read (some given) rest

/-- What the arguments of a run ask for. -/
def ofArguments (arguments : List String) : Invocation :=
  read none arguments

end Invocation

end Newsstand
