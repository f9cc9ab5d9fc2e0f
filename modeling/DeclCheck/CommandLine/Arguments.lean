/-! The arguments of the command line: a file, or a command with its file, among options.
An argument that begins with a dash is an option, or several with one letter each; after
two dashes alone every argument is a file. Arguments are taken from left to right, and
the first one that cannot be taken ends the reading. -/
namespace DeclCheck.CommandLine

/-- The plain form, which needs no name, and the commands that start with theirs. -/
inductive Command where
  | plain
  | check
  | tokens
  | version
deriving DecidableEq, Repr

def Command.ofName? : String → Option Command
  | "check" => some .check
  | "tokens" => some .tokens
  | "version" => some .version
  | _ => none

/-- The command that an argument starts; there are none within a command. -/
def Command.next? (current : Command) (argument : String) : Option Command :=
  if current = .plain then ofName? argument else none

/-- Why arguments are not followed by a run: they are misused, or ask for a text. -/
inductive Refusal where
  | usage
  | version
  | help
deriving DecidableEq, Repr

inductive Switch where
  | json
  | verbose
  | version
  | help
deriving DecidableEq, Repr

namespace Switch

/-- The version can be asked for before a command only. -/
def ofLong? (command : Command) : String → Option Switch
  | "json" => some .json
  | "verbose" => some .verbose
  | "help" => some .help
  | "version" => if command = .plain then some .version else none
  | _ => none

def ofShort? (command : Command) : Char → Option Switch
  | 'v' => some .verbose
  | 'h' => some .help
  | 'V' => if command = .plain then some .version else none
  | _ => none

end Switch

structure Flags where
  json : Bool
  verbose : Bool
deriving DecidableEq, Repr

def Flags.none : Flags :=
  ⟨false, false⟩

/-- A flag may be given once. -/
def Flags.add (flags : Flags) : Switch → Except Refusal Flags
  | .json => if flags.json then .error .usage else .ok { flags with json := true }
  | .verbose => if flags.verbose then .error .usage else .ok { flags with verbose := true }
  | .version => .error .version
  | .help => .error .help

def Flags.union (left right : Flags) : Flags :=
  ⟨left.json || right.json, left.verbose || right.verbose⟩

/-- What has been given so far. A command starts anew: flags before it stay in force and
may be given once more after it, a file before it is forgotten. -/
structure Arguments where
  inherited : Flags
  command : Command
  flags : Flags
  file : Option String
deriving DecidableEq, Repr

namespace Arguments

def empty : Arguments :=
  ⟨.none, .plain, .none, none⟩

def start (given : Arguments) (command : Command) : Arguments :=
  ⟨given.inherited.union given.flags, command, .none, none⟩

/-- There is one file at most, none for the version command, and its name is not empty. -/
def takeFile (given : Arguments) (name : String) : Except Refusal Arguments :=
  if given.command = .version ∨ given.file.isSome ∨ name.isEmpty then .error .usage
  else .ok { given with file := some name }

def takeSwitch (given : Arguments) : Option Switch → Except Refusal Arguments
  | none => .error .usage
  | some switch => (given.flags.add switch).map fun flags => { given with flags }

def takeLong (given : Arguments) (name : List Char) : Except Refusal Arguments :=
  given.takeSwitch (Switch.ofLong? given.command (String.ofList name))

def takeShort (given : Arguments) (letter : Char) : Except Refusal Arguments :=
  given.takeSwitch (Switch.ofShort? given.command letter)

/-- Take an argument that does not decide how those after it are read; one dash alone
is a file. -/
def take (given : Arguments) (argument : String) : Except Refusal Arguments :=
  match given.command.next? argument with
  | some command => .ok (given.start command)
  | none =>
    match argument.toList with
    | '-' :: '-' :: name => given.takeLong name
    | '-' :: letter :: letters => (letter :: letters).foldlM takeShort given
    | _ => given.takeFile argument

/-- Help is given on the whole program or on one command. -/
def helpRefusal : List String → Refusal
  | [] => .help
  | [name] => if name = "help" ∨ (Command.ofName? name).isSome then .help else .usage
  | _ => .usage

def takeAll (given : Arguments) : List String → Except Refusal Arguments
  | [] => .ok given
  | argument :: rest =>
    if argument = "--" then rest.foldlM takeFile given
    else if given.command = .plain ∧ argument = "help" then .error (helpRefusal rest)
    else (given.take argument).bind fun given => given.takeAll rest

end Arguments

/-- What to do. -/
inductive Task where
  | check (file : String) (json : Bool)
  | tokens (file : String)
  | version
  | noFile
deriving DecidableEq, Repr

structure Invocation where
  task : Task
  verbose : Bool
deriving DecidableEq, Repr

def Arguments.invocation (given : Arguments) : Except Refusal Invocation :=
  let flags := given.inherited.union given.flags
  match given.command, given.file with
  | .plain, none => .ok ⟨.noFile, flags.verbose⟩
  | .plain, some file | .check, some file => .ok ⟨.check file flags.json, flags.verbose⟩
  | .tokens, some file => .ok ⟨.tokens file, flags.verbose⟩
  | .check, none | .tokens, none => .error .usage
  | .version, _ => .ok ⟨.version, flags.verbose⟩

def parse (arguments : List String) : Except Refusal Invocation :=
  (Arguments.empty.takeAll arguments).bind Arguments.invocation

end DeclCheck.CommandLine
