import DeclCheck.Text.ControlSequence
import DeclCheck.Trace

namespace DeclCheck.Log

inductive Level where
  | error
  | warn
  | info
  | debug
  | trace
deriving DecidableEq, Repr

namespace Level

def all : List Level :=
  [error, warn, info, debug, trace]

def name : Level → String
  | error => "ERROR"
  | warn => "WARN"
  | info => "INFO"
  | debug => "DEBUG"
  | trace => "TRACE"

/-- The place in the order from the gravest level to the most talkative. -/
def rank : Level → Nat
  | error => 1
  | warn => 2
  | info => 3
  | debug => 4
  | trace => 5

end Level

structure Record where
  level : Level
  target : String
  message : String
deriving DecidableEq, Repr

/-- The target of the records that report progress. -/
def progressTarget : String :=
  "varcheck::utils::trace"

/-- The target of the records of the command line itself. -/
def commandTarget : String :=
  "varcheck"

def Record.ofEvent : Event → Record
  | .tokenized line tokens =>
    ⟨.debug, progressTarget, "[" ++ toString line ++ "] " ++ Token.render tokens⟩
  | .passed stage line =>
    ⟨.debug, progressTarget, stage.name ++ " line " ++ toString line ++ ": correct"⟩
  | .failed stage line message =>
    ⟨.warn, progressTarget, stage.name ++ " line " ++ toString line ++ " error: " ++ message⟩
  | .finished stage lines errors =>
    ⟨.info, progressTarget, stage.name ++ " analysis finished: " ++ toString lines
      ++ " lines, " ++ toString errors ++ " errors"⟩

/-- Level names are filled up with spaces to five characters. The time, which the log puts before
the level, is left out. -/
def Record.heading (record : Record) : String :=
  let padding := String.ofList (List.replicate (5 - record.level.name.length) ' ')
  "[" ++ record.level.name ++ padding ++ " " ++ record.target ++ "] "

/-- Set every line but the first in by four spaces. -/
def setIn (text : List Char) : List Char :=
  text.flatMap fun c => c :: if c = '\n' then List.replicate 4 ' ' else []

/-- A record as the log shows it: control characters and control sequences are left out,
also where they are part of the message. -/
def Record.text (record : Record) : String :=
  String.ofList
    (Text.plain (record.heading.toList ++ setIn record.message.toList ++ ['\n']))

/-- The most talkative level that is shown, or `none` for a log that is off. -/
abbrev Limit := Option Level

/-- The limit with a given name, in letters of either case; `none` if there is no such
limit. -/
def Limit.ofName? (name : String) : Option Limit :=
  if name.toUpper = "OFF" then some none
  else (Level.all.find? fun level => level.name = name.toUpper).map some

def Limit.shows (limit : Limit) (record : Record) : Bool :=
  limit.any fun level => record.level.rank ≤ level.rank

def render (limit : Limit) (records : List Record) : String :=
  String.join ((records.filter fun record => limit.shows record).map Record.text)

end DeclCheck.Log
