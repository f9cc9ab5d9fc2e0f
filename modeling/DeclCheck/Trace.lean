import DeclCheck.Token

namespace DeclCheck

inductive Stage where
  | lexical
  | syntactic
  | semantic
deriving DecidableEq, Repr

def Stage.name : Stage → String
  | lexical => "lexical"
  | syntactic => "syntax"
  | semantic => "semantic"

inductive Event where
  /-- A line was split into lexemes of these categories. -/
  | tokenized (line : Nat) (tokens : List Token)
  | passed (stage : Stage) (line : Nat)
  | failed (stage : Stage) (line : Nat) (message : String)
  /-- A stage has seen all its lines. -/
  | finished (stage : Stage) (lines errors : Nat)
deriving DecidableEq, Repr

def Event.text : Event → String
  | tokenized line tokens => "tokenized " ++ toString line ++ " " ++ Token.render tokens
  | passed stage line => stage.name ++ " ok " ++ toString line
  | failed stage line message => stage.name ++ " fail " ++ toString line ++ " " ++ message
  | finished stage lines errors =>
    stage.name ++ " done " ++ toString lines ++ " " ++ toString errors

/-- A result with the events on the way to it, in order. -/
structure Traced (α : Type) where
  result : α
  events : List Event
deriving DecidableEq, Repr

end DeclCheck
