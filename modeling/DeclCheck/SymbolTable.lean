import DeclCheck.DataType
import DeclCheck.Diagnostic
import Std.Data.ExtTreeMap

namespace DeclCheck

/-- The types of the declared variables. The first declaration of a name stays. -/
structure SymbolTable where
  types : Std.ExtTreeMap String DataType

namespace SymbolTable

def empty : SymbolTable :=
  ⟨∅⟩

/-- The type a name was declared with. -/
def lookup (table : SymbolTable) (name : String) : Option DataType :=
  table.types[name]?

/-- Declare a new name. -/
def define (table : SymbolTable) (name : String) (type : DataType) :
    Except SemanticError SymbolTable :=
  if name ∈ table.types then .error (.alreadyDeclared name)
  else .ok ⟨table.types.insert name type⟩

def size (table : SymbolTable) : Nat :=
  table.types.size

def isEmpty (table : SymbolTable) : Bool :=
  table.types.isEmpty

/-- All names with their types, ascending by name. -/
def sorted (table : SymbolTable) : List (String × DataType) :=
  table.types.toList

/-- A definition fails on the declared names only. -/
theorem define_eq_error_iff (table : SymbolTable) (name : String) (type : DataType)
    (error : SemanticError) :
    table.define name type = .error error ↔
      (table.lookup name).isSome ∧ error = .alreadyDeclared name := by
  rw [define, lookup, ← Std.ExtTreeMap.mem_iff_isSome_getElem?]
  by_cases taken : name ∈ table.types
  · simp [taken, eq_comm]
  · simp [taken]

/-- A definition changes the type of its own name only. -/
theorem lookup_of_define {table after : SymbolTable} {name : String} {type : DataType}
    (defined : table.define name type = .ok after) (other : String) :
    after.lookup other = if name = other then some type else table.lookup other := by
  unfold define at defined
  split at defined
  · simp at defined
  · cases defined
    simp [lookup, Std.ExtTreeMap.getElem?_insert]

theorem size_of_define {table after : SymbolTable} {name : String} {type : DataType}
    (defined : table.define name type = .ok after) : after.size = table.size + 1 := by
  unfold define at defined
  split at defined
  · simp at defined
  · rename_i free
    cases defined
    simp [size, Std.ExtTreeMap.size_insert, free]

end SymbolTable

end DeclCheck
