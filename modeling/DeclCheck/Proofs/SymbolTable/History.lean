import DeclCheck.Proofs.Sorting
import DeclCheck.SymbolTable
import Mathlib.Data.List.Induction
import Mathlib.Data.List.Nodup

/-! A symbol table over any sequence of requests is a map that is written once: every request is
answered as the requests before it say, and the first definition of a name stays. The sorted list
shows neither the order of the definitions nor the order in which a table goes over its entries. -/
namespace DeclCheck.SymbolTable

inductive Request where
  | define (name : String) (type : DataType)
  | lookup (name : String)
  | sorted
deriving DecidableEq, Repr

inductive Answer where
  | defined
  | refused (error : SemanticError)
  | found (type? : Option DataType)
  | entries (entries : List (String × DataType))
deriving DecidableEq, Repr

/-- Define a name in place: the table is looked at, and then changed. -/
def defineInPlace (name : String) (type : DataType) :
    ExceptT SemanticError (StateM SymbolTable) Unit := do
  let table ← get
  if name ∈ table.types then throw (.alreadyDeclared name)
  else set (⟨table.types.insert name type⟩ : SymbolTable)

/-- The answer to a request, and the table that it leaves. -/
def serve (table : SymbolTable) : Request → Answer × SymbolTable
  | .define name type =>
    match (defineInPlace name type).run.run table with
    | (.ok (), after) => (.defined, after)
    | (.error error, after) => (.refused error, after)
  | .lookup name => (.found (table.lookup name), table)
  | .sorted => (.entries table.sorted, table)

/-- The answers to a sequence of requests, and the table after them. -/
def serveAll (table : SymbolTable) : List Request → List Answer × SymbolTable
  | [] => ([], table)
  | request :: rest =>
    let (answer, after) := table.serve request
    let (answers, final) := after.serveAll rest
    (answer :: answers, final)

/-- The first definition of a name in a history of requests gives it this type. -/
def FirstDefines (history : List Request) (name : String) (type : DataType) : Prop :=
  ∃ before after, history = before ++ .define name type :: after ∧
    ∀ earlier, .define name earlier ∉ before

def codePoints (name : String) : List Nat :=
  name.toList.map Char.toNat

/-- The entries of the names that a history defines, strictly ascending by name. -/
structure Lists (history : List Request) (entries : List (String × DataType)) : Prop where
  mem_iff : ∀ name type, (name, type) ∈ entries ↔ FirstDefines history name type
  ascending : entries.Pairwise fun first second => codePoints first.1 < codePoints second.1

/-- An answer to a request that is right after a history of requests. -/
inductive Answered (history : List Request) : Request → Answer → Prop where
  | defined {name : String} {type : DataType} (fresh : ∀ earlier, .define name earlier ∉ history) :
    Answered history (.define name type) .defined
  | refused {name : String} {type earlier : DataType} (taken : .define name earlier ∈ history) :
    Answered history (.define name type) (.refused (.alreadyDeclared name))
  | found {name : String} {type? : Option DataType}
    (first : ∀ type, type? = some type ↔ FirstDefines history name type) :
    Answered history (.lookup name) (.found type?)
  | entries {entries : List (String × DataType)} (lists : Lists history entries) :
    Answered history .sorted (.entries entries)

variable {table after : SymbolTable} {history : List Request} {request : Request} {name : String}
  {type : DataType}

theorem run_defineInPlace (table : SymbolTable) (name : String) (type : DataType) :
    (defineInPlace name type).run.run table =
      match table.define name type with
      | .ok after => (.ok (), after)
      | .error error => (.error error, table) := by
  have looked : (defineInPlace name type).run.run table =
      (if name ∈ table.types then throw (.alreadyDeclared name)
        else set (⟨table.types.insert name type⟩ : SymbolTable) :
          ExceptT SemanticError (StateM SymbolTable) Unit).run.run table := rfl
  rw [looked, define]
  split <;> rfl

theorem serve_define (table : SymbolTable) (name : String) (type : DataType) :
    table.serve (.define name type) =
      match table.define name type with
      | .ok after => (.defined, after)
      | .error error => (.refused error, table) := by
  rw [serve, run_defineInPlace]
  cases table.define name type <;> rfl

theorem serve_define_of_free (type : DataType) (free : table.lookup name = none) :
    ∃ after, table.define name type = .ok after ∧
      table.serve (.define name type) = (.defined, after) := by
  cases outcome : table.define name type with
  | ok after => exact ⟨after, rfl, by rw [serve_define, outcome]⟩
  | error error =>
    have taken := ((table.define_eq_error_iff name type error).mp outcome).1
    simp [free] at taken

theorem serve_define_of_taken (taken : (table.lookup name).isSome) :
    table.serve (.define name type) = (.refused (.alreadyDeclared name), table) := by
  rw [serve_define, (table.define_eq_error_iff name type _).mpr ⟨taken, rfl⟩]

theorem mem_sorted_iff : (name, type) ∈ table.sorted ↔ table.lookup name = some type :=
  Std.ExtTreeMap.mem_toList_iff_getElem?_eq_some

theorem sorted_ascending (table : SymbolTable) :
    table.sorted.Pairwise fun first second => first.1 < second.1 := by
  refine List.Pairwise.imp ?_ Std.ExtTreeMap.ordered_keys_toList
  intro first second less
  exact compareOfLessAndEq_eq_lt.mp less

theorem codePoints_lt {first second : String} (less : first < second) :
    codePoints first < codePoints second :=
  List.map_lt (fun _ _ less => less) (String.lt_iff.mp less)

theorem ext_lookup {other : SymbolTable} (same : ∀ name, table.lookup name = other.lookup name) :
    table = other := by
  cases table
  cases other
  exact congrArg mk (Std.ExtTreeMap.ext_getElem? same)

theorem firstDefines_concat :
    FirstDefines (history ++ [request]) name type ↔ FirstDefines history name type ∨
      (∀ earlier, .define name earlier ∉ history) ∧ request = .define name type := by
  constructor
  · rintro ⟨before, after, parts, fresh⟩
    rcases List.eq_nil_or_concat after with rfl | ⟨between, last, rfl⟩
    · obtain ⟨rfl, same⟩ := List.append_inj' parts rfl
      cases same
      exact .inr ⟨fresh, rfl⟩
    · have grouped : history ++ [request] =
          (before ++ .define name type :: between) ++ [last] := by simp [parts]
      obtain ⟨rfl, _⟩ := List.append_inj' grouped rfl
      exact .inl ⟨before, between, rfl, fresh⟩
  · rintro (⟨before, after, rfl, fresh⟩ | ⟨fresh, rfl⟩)
    · exact ⟨before, after ++ [request], by simp, fresh⟩
    · exact ⟨history, [], rfl, fresh⟩

theorem FirstDefines.mem (first : FirstDefines history name type) :
    .define name type ∈ history := by
  obtain ⟨before, after, rfl, _⟩ := first
  simp

/-- What a history of requests, with the answers to them, says of the table. -/
structure Written (history : List Request) (answers : List Answer) (table : SymbolTable) :
    Prop where
  lookup : ∀ name type, table.lookup name = some type ↔ FirstDefines history name type
  free : ∀ name, table.lookup name = none ↔ ∀ type, .define name type ∉ history
  size : table.size = answers.count .defined

variable {answers : List Answer} {answer : Answer}

theorem written_nil : Written [] [] empty where
  lookup := by simp [SymbolTable.lookup, empty, FirstDefines]
  free := by simp [SymbolTable.lookup, empty]
  size := Std.ExtTreeMap.size_empty

/-- A request that defines no new name leaves all as it is. -/
theorem Written.keep (written : Written history answers table)
    (old : ∀ name type, request = .define name type → ∃ earlier, .define name earlier ∈ history)
    (other : answer ≠ .defined) : Written (history ++ [request]) (answers ++ [answer]) table where
  lookup name type := by
    rw [written.lookup, firstDefines_concat]
    constructor
    · exact .inl
    · rintro (first | ⟨fresh, same⟩)
      · exact first
      · obtain ⟨earlier, member⟩ := old name type same
        exact absurd member (fresh earlier)
  free name := by
    rw [written.free]
    constructor
    · intro fresh type member
      rcases List.mem_append.mp member with known | last
      · exact fresh type known
      · obtain ⟨earlier, member⟩ := old name type (List.mem_singleton.mp last).symm
        exact fresh earlier member
    · intro fresh type member
      exact fresh type (List.mem_append_left _ member)
  size := by simp [written.size, List.count_append, other]

theorem Written.define (written : Written history answers table)
    (defined : table.define name type = .ok after) (free : table.lookup name = none) :
    Written (history ++ [.define name type]) (answers ++ [.defined]) after where
  lookup other given := by
    rw [firstDefines_concat, lookup_of_define defined, ← written.lookup, ← written.free]
    by_cases same : name = other
    · subst same
      simp [free]
    · simp [same]
  free other := by
    rw [lookup_of_define defined]
    by_cases same : name = other
    · subst same
      simpa using ⟨type, fun _ => rfl⟩
    · simp [same, Ne.symm same, written.free]
  size := by simp [size_of_define defined, written.size, List.count_append]

theorem Written.serve (written : Written history answers table) (request : Request) :
    Written (history ++ [request]) (answers ++ [(table.serve request).1])
      (table.serve request).2 := by
  cases request with
  | define name type =>
    cases known : table.lookup name with
    | none =>
      obtain ⟨after, defined, served⟩ := serve_define_of_free type known
      rw [served]
      exact written.define defined known
    | some earlier =>
      rw [serve_define_of_taken (by simp [known])]
      refine written.keep ?_ (by simp)
      rintro _ _ ⟨⟩
      exact ⟨earlier, ((written.lookup name earlier).mp known).mem⟩
  | lookup name => exact written.keep (by simp) (by simp [SymbolTable.serve])
  | sorted => exact written.keep (by simp) (by simp [SymbolTable.serve])

theorem serveAll_append (table : SymbolTable) (first second : List Request) :
    table.serveAll (first ++ second) =
      ((table.serveAll first).1 ++ ((table.serveAll first).2.serveAll second).1,
        ((table.serveAll first).2.serveAll second).2) := by
  induction first generalizing table with
  | nil => rfl
  | cons request rest ih => simp [serveAll, ih]

theorem length_serveAll (table : SymbolTable) (requests : List Request) :
    (table.serveAll requests).1.length = requests.length := by
  induction requests generalizing table with
  | nil => rfl
  | cons request rest ih => simp [serveAll, ih]

theorem written_serveAll (requests : List Request) :
    Written requests (empty.serveAll requests).1 (empty.serveAll requests).2 := by
  induction requests using List.reverseRecOn with
  | nil => exact written_nil
  | append_singleton history request ih =>
    rw [serveAll_append]
    exact ih.serve request

theorem Written.lists (written : Written history answers table) : Lists history table.sorted where
  mem_iff name type := mem_sorted_iff.trans (written.lookup name type)
  ascending := table.sorted_ascending.imp codePoints_lt

theorem Written.answered (written : Written history answers table) (request : Request) :
    Answered history request (table.serve request).1 := by
  cases request with
  | define name type =>
    cases known : table.lookup name with
    | none =>
      obtain ⟨after, _, served⟩ := serve_define_of_free type known
      rw [served]
      exact .defined ((written.free name).mp known)
    | some earlier =>
      rw [serve_define_of_taken (by simp [known])]
      exact .refused ((written.lookup name earlier).mp known).mem
  | lookup name => exact .found (written.lookup name)
  | sorted => exact .entries written.lists

/-- The answer in its place among the answers. -/
theorem answered_serveAll (before after : List Request) (request : Request) :
    ∃ answer, (empty.serveAll (before ++ request :: after)).1[before.length]? = some answer ∧
      Answered before request answer := by
  refine ⟨_, ?_, (written_serveAll before).answered request⟩
  rw [serveAll_append, List.getElem?_append_right (Nat.le_of_eq (length_serveAll ..)), length_serveAll,
    Nat.sub_self]
  rfl

theorem serve_of_refused {error : SemanticError}
    (refused : (table.serve (.define name type)).1 = .refused error) :
    (table.serve (.define name type)).2 = table := by
  cases known : table.lookup name with
  | none =>
    obtain ⟨after, _, served⟩ := serve_define_of_free type known
    simp [served] at refused
  | some earlier => rw [serve_define_of_taken (by simp [known])]

theorem isEmpty_iff (table : SymbolTable) : table.isEmpty = true ↔ table.size = 0 := by
  rw [isEmpty, size, Std.ExtTreeMap.isEmpty_eq_size_beq_zero, beq_iff_eq]

/-- The entries of a table, in any order. -/
def Iterates (table : SymbolTable) (entries : List (String × DataType)) : Prop :=
  (entries.map Prod.fst).Nodup ∧
    ∀ name type, (name, type) ∈ entries ↔ table.lookup name = some type

def sortByName (entries : List (String × DataType)) : List (String × DataType) :=
  entries.mergeSort fun first second => first.1 ≤ second.1

theorem sortByName_iteration {entries : List (String × DataType)}
    (iterates : table.Iterates entries) : sortByName entries = table.sorted := by
  obtain ⟨distinct, listed⟩ := iterates
  have ordered : (sortByName entries).Pairwise fun first second => first.1 ≤ second.1 :=
    Sorting.pairwise_mergeSort Prod.fst entries
  have ordered' : table.sorted.Pairwise fun first second => first.1 ≤ second.1 :=
    table.sorted_ascending.imp fun less => String.not_lt.mp (String.lt_asymm less)
  have nodup : table.sorted.Nodup := by
    refine List.Pairwise.imp ?_ table.sorted_ascending
    rintro first second less rfl
    exact String.lt_irrefl first.1 less
  have perm : entries.Perm table.sorted := by
    rw [List.perm_ext_iff_of_nodup (distinct.of_map Prod.fst) nodup]
    rintro ⟨name, type⟩
    rw [listed, mem_sorted_iff]
  refine List.Perm.eq_of_pairwise ?_ ordered ordered' ((List.mergeSort_perm ..).trans perm)
  rintro ⟨name, type⟩ ⟨name', type'⟩ member member' less greater
  obtain rfl : name = name' := String.le_antisymm less greater
  have found := (listed name type).mp ((List.mergeSort_perm ..).mem_iff.mp member)
  have found' := mem_sorted_iff.mp member'
  rw [found] at found'
  rw [Option.some.inj found']

/-- The requests for some definitions. -/
def defineAll (definitions : List (String × DataType)) : List Request :=
  definitions.map fun (name, type) => .define name type

theorem firstDefines_defineAll {definitions : List (String × DataType)}
    (distinct : (definitions.map Prod.fst).Nodup) :
    FirstDefines (defineAll definitions) name type ↔ (name, type) ∈ definitions := by
  constructor
  · intro first
    obtain ⟨⟨_, _⟩, member, same⟩ := List.mem_map.mp first.mem
    cases same
    exact member
  · intro member
    obtain ⟨before, after, rfl⟩ := List.append_of_mem member
    refine ⟨defineAll before, defineAll after, by simp [defineAll], ?_⟩
    intro earlier known
    obtain ⟨⟨_, _⟩, member, same⟩ := List.mem_map.mp known
    cases same
    rw [List.map_append, List.nodup_append] at distinct
    exact distinct.2.2 name (List.mem_map_of_mem member) name (by simp) rfl

theorem serveAll_perm {definitions shuffled : List (String × DataType)}
    (distinct : (definitions.map Prod.fst).Nodup) (perm : shuffled.Perm definitions) :
    (empty.serveAll (defineAll shuffled)).2 = (empty.serveAll (defineAll definitions)).2 := by
  apply ext_lookup
  intro name
  apply Option.ext
  intro type
  rw [(written_serveAll _).lookup, (written_serveAll _).lookup, firstDefines_defineAll distinct,
    firstDefines_defineAll ((perm.map Prod.fst).nodup_iff.mpr distinct), perm.mem_iff]

/-- Each request of a sequence is answered as the requests before it say, and a refused definition
changes nothing. The size counts the definitions that succeeded, and the sorted list is the same
whatever order a table lists its entries in. Definitions of distinct names leave the same table in
any order. -/
theorem serves_first_definitions (requests : List Request)
    (definitions : List (String × DataType)) :
    let (answers, table) := empty.serveAll requests
    answers.length = requests.length ∧
      (∀ before request after, requests = before ++ request :: after →
        ∃ answer, answers[before.length]? = some answer ∧ Answered before request answer) ∧
      (∀ name type error, (table.serve (.define name type)).1 = .refused error →
        (table.serve (.define name type)).2 = table) ∧
      table.size = answers.count .defined ∧ (table.isEmpty = true ↔ table.size = 0) ∧
      (∀ name type, table.lookup name = some type ↔ FirstDefines requests name type) ∧
      Lists requests table.sorted ∧
      (∀ entries, table.Iterates entries → sortByName entries = table.sorted) ∧
      ((definitions.map Prod.fst).Nodup → ∀ shuffled, shuffled.Perm definitions →
        let ordered := (empty.serveAll (defineAll definitions)).2
        let other := (empty.serveAll (defineAll shuffled)).2
        (∀ name, other.lookup name = ordered.lookup name) ∧ other.sorted = ordered.sorted ∧
          ∀ entries, other.Iterates entries → sortByName entries = ordered.sorted) := by
  have written := written_serveAll requests
  refine ⟨length_serveAll empty requests, ?_, ?_, written.size, isEmpty_iff _, written.lookup,
    written.lists, fun _ => sortByName_iteration, ?_⟩
  · rintro before request after rfl
    exact answered_serveAll before after request
  · intro name type error
    exact serve_of_refused
  · intro distinct shuffled perm ordered other
    have same : other = ordered := serveAll_perm distinct perm
    rw [same]
    exact ⟨fun _ => rfl, rfl, fun _ => sortByName_iteration⟩

/-- A second definition of a name is refused, and the order of the first ones is not seen. -/
theorem serves_first_definitions_of_repeated :
    let definitions := [("b", DataType.int), ("B", .byte)]
    let repeated : Request := .define "b" .char
    let table := (empty.serveAll (defineAll definitions ++ [repeated])).2
    (∃ answer, (empty.serveAll (defineAll definitions ++ [repeated])).1[2]? = some answer ∧
        Answered (defineAll definitions) repeated answer) ∧
      (table.serve repeated).1 = .refused (.alreadyDeclared "b") ∧
      (table.serve repeated).2 = table ∧
      table.Iterates definitions ∧ sortByName definitions = [("B", .byte), ("b", .int)] ∧
      (definitions.map Prod.fst).Nodup ∧ definitions.reverse.Perm definitions ∧
      (empty.serveAll (defineAll definitions.reverse)).2.sorted =
        (empty.serveAll (defineAll definitions)).2.sorted := by
  intro definitions repeated table
  obtain ⟨_, answered, atomic, _, _, _, _, iterations, ordered⟩ :=
    serves_first_definitions (defineAll definitions ++ [repeated]) definitions
  have refused : (table.serve repeated).1 = .refused (.alreadyDeclared "b") := by decide +kernel
  have listed : table.sorted = [("B", .byte), ("b", .int)] := by decide +kernel
  have iterates : table.Iterates definitions := by
    refine ⟨by decide, fun name type => ?_⟩
    rw [← mem_sorted_iff, listed]
    simp [definitions, or_comm]
  have distinct : (definitions.map Prod.fst).Nodup := by decide
  have reversed : definitions.reverse.Perm definitions := List.reverse_perm _
  exact ⟨answered _ repeated [] rfl, refused, atomic "b" .char _ refused, iterates,
    (iterations definitions iterates).trans listed, distinct, reversed,
    (ordered distinct _ reversed).2.1⟩

end DeclCheck.SymbolTable
