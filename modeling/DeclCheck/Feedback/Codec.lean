import DeclCheck.Feedback.Basic
import DeclCheck.Json.Printer
import DeclCheck.Json.Reader

/-! Feedback as JSON. It is written as objects with all their fields in order. It is read
from objects with their fields in any order, fields of other names being ignored, or
from lists of exactly the fields' values in order. -/
namespace DeclCheck

namespace Json

def ofText (text : String) : Json :=
  .string (some text)

def ofOptionalText : Option String → Json
  | none => .null
  | some text => ofText text

def ofCount (count : Nat) : Json :=
  .number (.ofNat count)

def ofFields (fields : List (String × Json)) : Json :=
  .object (fields.map fun (name, value) => (some name, value))

def text? : Json → Option String
  | .string text => text
  | _ => none

def boolean? : Json → Option Bool
  | .boolean value => some value
  | _ => none

/-- A count fits into 64 bits and is written with digits only. -/
def count? : Json → Option Nat
  | .number numeral => numeral.toNat?.filter (· < Decimal.wordLimit)
  | _ => none

def binary64? : Json → Option Binary64
  | .number numeral => numeral.toBinary64?
  | _ => none

def list? {α : Type} (decode : Json → Option α) : Json → Option (List α)
  | .list items => items.mapM decode
  | _ => none

/-- A text that may be missing or null. -/
def optionalText? : Option Json → Option (Option String)
  | none | some .null => some none
  | some json => json.text?.map some

/-- One of the named values, by its name alone or as the key of a null. -/
def named? {α : Type} (name : α → String) (values : List α) (json : Json) : Option α :=
  let named (text : JsonText) := values.find? fun value => text = some (name value)
  match json with
  | .string text => named text
  | .object [(key, .null)] => named key
  | _ => none

/-- The value of a field, if it is there; `none` when it is there twice. -/
def field? (fields : List (JsonText × Json)) (name : String) : Option (Option Json) :=
  match fields.filter fun field => field.1 = some name with
  | [] => some none
  | [(_, value)] => some (some value)
  | _ => none

/-- The values of the named fields, in the order of the names. Every key of an object has
to be a text, also those of other fields. -/
def fields? (names : List String) : Json → Option (List (Option Json))
  | .list items => if items.length = names.length then some (items.map some) else none
  | .object fields =>
    if fields.all fun field => field.1.isSome then names.mapM (field? fields) else none
  | _ => none

end Json

namespace Stage

def all : List Stage :=
  [lexical, syntactic, semantic]

def toJson (stage : Stage) : Json :=
  .ofText stage.name

def ofJson? : Json → Option Stage :=
  Json.named? name all

end Stage

namespace Severity

def all : List Severity :=
  [error, warning]

def name : Severity → String
  | error => "error"
  | warning => "warning"

def toJson (severity : Severity) : Json :=
  .ofText severity.name

def ofJson? : Json → Option Severity :=
  Json.named? name all

end Severity

namespace Location

def toJson (location : Location) : Json :=
  .ofFields [("file", .ofText location.file), ("line", .ofCount location.line)]

def ofJson? (json : Json) : Option Location := do
  match ← json.fields? ["file", "line"] with
  | [some file, some line] => some { file := ← file.text?, line := ← line.count? }
  | _ => none

end Location

namespace Suggestion

def toJson (suggestion : Suggestion) : Json :=
  .ofFields [
    ("message", .ofText suggestion.message),
    ("replacement", .ofOptionalText suggestion.replacement),
    ("confidence", .number (.ofBinary64 suggestion.confidence))]

def ofJson? (json : Json) : Option Suggestion := do
  match ← json.fields? ["message", "replacement", "confidence"] with
  | [some message, replacement, some confidence] =>
    some
      { message := ← message.text?
        replacement := ← Json.optionalText? replacement
        confidence := ← confidence.binary64? }
  | _ => none

end Suggestion

namespace ErrorReport

def toJson (report : ErrorReport) : Json :=
  .ofFields [
    ("code", .ofText report.code),
    ("stage", report.stage.toJson),
    ("severity", report.severity.toJson),
    ("message", .ofText report.message),
    ("location", report.location.toJson),
    ("lexeme", .ofOptionalText report.lexeme),
    ("suggestions", .list (report.suggestions.map Suggestion.toJson))]

def fieldNames : List String :=
  ["code", "stage", "severity", "message", "location", "lexeme", "suggestions"]

def ofJson? (json : Json) : Option ErrorReport := do
  match ← json.fields? fieldNames with
  | [some code, some stage, some severity, some message, some location, lexeme,
      some suggestions] =>
    some
      { code := ← code.text?
        stage := ← Stage.ofJson? stage
        severity := ← Severity.ofJson? severity
        message := ← message.text?
        location := ← Location.ofJson? location
        lexeme := ← Json.optionalText? lexeme
        suggestions := ← suggestions.list? Suggestion.ofJson? }
  | _ => none

end ErrorReport

namespace Statistics

def toJson (statistics : Statistics) : Json :=
  .ofFields [
    ("lines", .ofCount statistics.lines),
    ("analyzed_lines", .ofCount statistics.analyzedLines),
    ("declared_symbols", .ofCount statistics.declaredSymbols),
    ("lexical_errors", .ofCount statistics.lexicalErrors),
    ("syntax_errors", .ofCount statistics.syntaxErrors),
    ("semantic_errors", .ofCount statistics.semanticErrors)]

def fieldNames : List String :=
  ["lines", "analyzed_lines", "declared_symbols", "lexical_errors", "syntax_errors",
    "semantic_errors"]

def ofJson? (json : Json) : Option Statistics := do
  match ← json.fields? fieldNames with
  | [some lines, some analyzed, some declared, some lexical, some syntactic, some semantic] =>
    some
      { lines := ← lines.count?
        analyzedLines := ← analyzed.count?
        declaredSymbols := ← declared.count?
        lexicalErrors := ← lexical.count?
        syntaxErrors := ← syntactic.count?
        semanticErrors := ← semantic.count? }
  | _ => none

end Statistics

namespace Feedback

def toJson (feedback : Feedback) : Json :=
  .ofFields [
    ("success", .boolean feedback.success),
    ("source_file", .ofText feedback.sourceFile),
    ("lexical_success", .boolean feedback.lexicalSuccess),
    ("diagnostics", .list (feedback.diagnostics.map ErrorReport.toJson)),
    ("stats", feedback.statistics.toJson)]

def fieldNames : List String :=
  ["success", "source_file", "lexical_success", "diagnostics", "stats"]

def ofJson? (json : Json) : Option Feedback := do
  match ← json.fields? fieldNames with
  | [some success, some file, some lexicalSuccess, some diagnostics, some statistics] =>
    some
      { success := ← success.boolean?
        sourceFile := ← file.text?
        lexicalSuccess := ← lexicalSuccess.boolean?
        diagnostics := ← diagnostics.list? ErrorReport.ofJson?
        statistics := ← Statistics.ofJson? statistics }
  | _ => none

/-- The feedback as JSON over several lines. -/
def pretty (feedback : Feedback) : String :=
  feedback.toJson.pretty

/-- The feedback as JSON on one line. -/
def compact (feedback : Feedback) : String :=
  feedback.toJson.compact

/-- Read feedback from JSON. -/
def read? (text : String) : Option Feedback := do
  ofJson? (← Json.read? text)

end Feedback

end DeclCheck
