import DeclCheck.CommandLine.Arguments
import DeclCheck.CommandLine.Directory
import DeclCheck.Feedback.Codec
import DeclCheck.Feedback.Report
import DeclCheck.Log

namespace DeclCheck.CommandLine

/-- The exit status is 0 if nothing is wrong with the source, 1 if something is, and 2 if it could
not be looked at. -/
structure Outcome where
  exit : Nat
  stdout : String
  stderr : String
deriving DecidableEq, Repr

/-- How to read a file by its name. -/
abbrev ReadFile := String → Except ReadFailure String

def versionText : String :=
  "varcheck 0.1.0\n"

def licenseText : String :=
  "License: Apache-2.0\n"

/-- What the argument parser says by itself: its complaint about misused arguments, and the help
that it gives. -/
structure ParserTexts where
  misuse : List String → String
  help : List String → String

def Refusal.outcome (texts : ParserTexts) (arguments : List String) : Refusal → Outcome
  | usage => ⟨2, "", texts.misuse arguments⟩
  | version => ⟨0, versionText, ""⟩
  | help => ⟨0, texts.help arguments, ""⟩

def readFailed (file : String) (failure : ReadFailure) : Outcome :=
  ⟨2, "", "Error: failed to read " ++ file ++ ": " ++ failure.reason ++ "\n"⟩

/-- The text report under the file's name, with a last line that gives its sum. -/
def renderCheck (file : String) (report : AnalysisReport) : String :=
  "Checking: " ++ file ++ "\n\n" ++ report.renderText ++ "\n"
    ++ (if report.isClean then "No errors found\n"
        else toString report.diagnosticCount ++ " error(s) found\n")

/-- Check the source text of a file. -/
def check (file : String) (json : Bool) (limit : Log.Limit) (source : String) : Outcome :=
  let traced := analyzeSource source
  let report := traced.result
  let begun : Log.Record := ⟨.info, Log.commandTarget, "checking " ++ file⟩
  { exit := if report.isClean then 0 else 1
    stdout := if json then (Feedback.ofReport report file).pretty ++ "\n" else renderCheck file report
    stderr := Log.render limit (begun :: traced.events.map Log.Record.ofEvent) }

/-- Print the tokens of a source text. -/
def dumpTokens (limit : Log.Limit) (source : String) : Outcome :=
  let traced := analyzeLexemes source
  let report := traced.result
  { exit := if report.isSuccess then 0 else 1
    stdout := report.tokenDump
    stderr := Log.render limit (traced.events.map Log.Record.ofEvent) ++ report.errorReport }

/-- Carry out a task with the log at `limit`. -/
def Task.run (read : ReadFile) (limit : Log.Limit) : Task → Outcome
  | .check file json =>
    match read file with
    | .ok source => CommandLine.check file json limit source
    | .error failure => readFailed file failure
  | .tokens file =>
    match read file with
    | .ok source => dumpTokens limit source
    | .error failure => readFailed file failure
  | .version => ⟨0, versionText ++ licenseText, ""⟩
  | .noFile =>
    ⟨2, "", "Error: No input file specified\n"
      ++ "Usage: varcheck <FILE> or varcheck check <FILE>\n"⟩

/-- Run the command line. A log limit from the environment comes before the one that the
arguments ask for. -/
def runWith (texts : ParserTexts) (read : ReadFile) (environment : Option Log.Limit)
    (arguments : List String) : Outcome :=
  match parse arguments with
  | .error refusal => refusal.outcome texts arguments
  | .ok invocation =>
    let asked := if invocation.verbose then Log.Level.debug else .warn
    invocation.task.run read (environment.getD (some asked))

def usageLine : String :=
  "Usage: varcheck [OPTIONS] [FILE] [COMMAND]\n"

def helpText : String :=
  "Checks variable declarations and assignments, one statement per line\n\n"
    ++ usageLine
    ++ "\nCommands:\n"
    ++ "  check    Run all three stages on a source file\n"
    ++ "  tokens   Print the token categories of every line\n"
    ++ "  version  Print version information\n"
    ++ "  help     Print this message or the help of the given subcommand(s)\n"
    ++ "\nArguments:\n"
    ++ "  [FILE]  Input source file\n"
    ++ "\nOptions:\n"
    ++ "      --json     Print a JSON feedback report instead of text\n"
    ++ "  -v, --verbose  Log per-line progress (overridden by RUST_LOG)\n"
    ++ "  -h, --help     Print help\n"
    ++ "  -V, --version  Print version\n"

/-- The help on the whole program stands for the help on one command too, and the complaint does
not say which argument is misused. -/
def parserTexts : ParserTexts where
  misuse _ := "error: invalid arguments\n\n" ++ usageLine
    ++ "\nFor more information, try '--help'.\n"
  help _ := helpText

def run : ReadFile → Option Log.Limit → List String → Outcome :=
  runWith parserTexts

end DeclCheck.CommandLine
