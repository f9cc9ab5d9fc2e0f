import DeclCheck.CommandLine.Arguments
import Mathlib.Data.List.Basic

namespace DeclCheck.CommandLine

section Steps

variable {ε α β : Type}

/-- A computation that succeeds has done its first part. -/
theorem exists_of_bind_eq_ok {first : Except ε α} {rest : α → Except ε β} {last : β}
    (done : first.bind rest = .ok last) : ∃ middle, first = .ok middle ∧ rest middle = .ok last := by
  cases first with
  | error error => cases done
  | ok middle => exact ⟨middle, rfl, done⟩

theorem exists_of_foldlM_cons {step : β → α → Except ε β} {item : α} {items : List α}
    {start last : β} (done : (item :: items).foldlM step start = .ok last) :
    ∃ middle, step start item = .ok middle ∧ items.foldlM step middle = .ok last := by
  rw [List.foldlM_cons] at done
  exact exists_of_bind_eq_ok done

end Steps

namespace Flags

theorem union_assoc (first second third : Flags) :
    (first.union second).union third = first.union (second.union third) := by
  simp [union, Bool.or_assoc]

theorem union_none (flags : Flags) : flags.union .none = flags := by
  simp [union, none]

theorem none_union (flags : Flags) : Flags.none.union flags = flags := by
  simp [union, none]

/-- The flag that an argument sets, in each of its spellings. -/
def ofArgument : String → Flags
  | "--json" => ⟨true, false⟩
  | "--verbose" | "-v" => ⟨false, true⟩
  | _ => .none

def ofArguments (arguments : List String) : Flags :=
  (arguments.map ofArgument).foldr union .none

theorem ofArguments_cons (argument : String) (rest : List String) :
    ofArguments (argument :: rest) = (ofArgument argument).union (ofArguments rest) := rfl

theorem ofArguments_append (first second : List String) :
    ofArguments (first ++ second) = (ofArguments first).union (ofArguments second) := by
  induction first with
  | nil => exact (none_union _).symm
  | cons argument rest ih =>
    rw [List.cons_append, ofArguments_cons, ofArguments_cons, ih, union_assoc]

/-- No flag is in both. -/
def Apart (first second : Flags) : Prop :=
  (first.json && second.json) = false ∧ (first.verbose && second.verbose) = false

theorem Apart.union {first second third : Flags} (left : Apart first second)
    (right : Apart first third) : Apart first (second.union third) := by
  simp only [Apart, Flags.union, Bool.and_or_distrib_left, Bool.or_eq_false_iff] at *
  exact ⟨⟨left.1, right.1⟩, left.2, right.2⟩

theorem apart_none (flags : Flags) : Apart flags .none := by
  simp [Apart, none]

end Flags

namespace Switch

theorem eq_of_ofLong? {command : Command} {name : String} {switch : Switch}
    (found : ofLong? command name = some switch) :
    (switch = .json → name = "json") ∧ (switch = .verbose → name = "verbose") := by
  unfold ofLong? at found
  split at found
  · cases found
    exact ⟨fun _ => rfl, nofun⟩
  · cases found
    exact ⟨nofun, fun _ => rfl⟩
  · cases found
    exact ⟨nofun, nofun⟩
  · split at found
    · cases found
      exact ⟨nofun, nofun⟩
    · cases found
  · cases found

theorem eq_of_ofShort? {command : Command} {letter : Char} {switch : Switch}
    (found : ofShort? command letter = some switch) :
    switch ≠ .json ∧ (switch = .verbose → letter = 'v') := by
  unfold ofShort? at found
  split at found
  · cases found
    exact ⟨nofun, fun _ => rfl⟩
  · cases found
    exact ⟨nofun, nofun⟩
  · split at found
    · cases found
      exact ⟨nofun, nofun⟩
    · cases found
  · cases found

end Switch

/-- The argument sets a flag. -/
def IsFlag (argument : String) : Prop :=
  argument = "--json" ∨ argument = "--verbose" ∨ argument = "-v"

/-- The argument is read as a file, as long as it is not taken for a command. -/
def IsFile (argument : String) : Prop :=
  argument = "-" ∨ argument.toList.head? ≠ some '-'

theorem ofArgument_of_isFile {argument : String} (proper : IsFile argument) :
    Flags.ofArgument argument = .none := by
  rcases proper with rfl | plain
  · rfl
  · unfold Flags.ofArgument
    split <;> first | rfl | exact absurd rfl plain

theorem Command.ofArgument_of_next? {current command : Command} {argument : String}
    (found : current.next? argument = some command) : Flags.ofArgument argument = .none := by
  unfold next? ofName? at found
  split at found
  · split at found <;> first | rfl | cases found
  · cases found

namespace Arguments

variable {given next : Arguments} {argument : String} {arguments : List String}

/-- The flags that are in force. -/
def inForce (given : Arguments) : Flags :=
  given.inherited.union given.flags

def add (given : Arguments) (flags : Flags) : Arguments :=
  { given with flags := given.flags.union flags }

theorem add_add (given : Arguments) (first second : Flags) :
    (given.add first).add second = given.add (first.union second) := by
  rw [add, add, add, Flags.union_assoc]

theorem add_none (given : Arguments) : given.add .none = given := by
  rw [add, Flags.union_none]

theorem inForce_add (given : Arguments) (flags : Flags) :
    (given.add flags).inForce = given.inForce.union flags :=
  (Flags.union_assoc ..).symm

theorem inForce_start (given : Arguments) (command : Command) :
    (given.start command).inForce = given.inForce :=
  Flags.union_none _

theorem takeSwitch_json : given.takeSwitch (some .json) =
    if given.flags.json then .error .usage else .ok (given.add ⟨true, false⟩) := by
  simp only [takeSwitch, Flags.add, add, Flags.union, Bool.or_true, Bool.or_false]
  split <;> rfl

theorem takeSwitch_verbose : given.takeSwitch (some .verbose) =
    if given.flags.verbose then .error .usage else .ok (given.add ⟨false, true⟩) := by
  simp only [takeSwitch, Flags.add, add, Flags.union, Bool.or_true, Bool.or_false]
  split <;> rfl

/-- A switch that is taken is a flag that has not been given. -/
theorem takeSwitch_cases {switch? : Option Switch} (taken : given.takeSwitch switch? = .ok next) :
    (switch? = some .json ∧ given.flags.json = false ∧ next = given.add ⟨true, false⟩) ∨
      (switch? = some .verbose ∧ given.flags.verbose = false ∧
        next = given.add ⟨false, true⟩) := by
  rcases switch? with _ | _ | _ | _ | _
  · cases taken
  · rw [takeSwitch_json] at taken
    split at taken
    · cases taken
    · rename_i fresh
      cases taken
      exact .inl ⟨rfl, Bool.eq_false_iff.mpr fresh, rfl⟩
  · rw [takeSwitch_verbose] at taken
    split at taken
    · cases taken
    · rename_i fresh
      cases taken
      exact .inr ⟨rfl, Bool.eq_false_iff.mpr fresh, rfl⟩
  · cases taken
  · cases taken

theorem takeShort_cases {letter : Char} (taken : given.takeShort letter = .ok next) :
    letter = 'v' ∧ given.flags.verbose = false ∧ next = given.add ⟨false, true⟩ := by
  rcases takeSwitch_cases taken with ⟨found, _, _⟩ | ⟨found, fresh, rfl⟩
  · exact absurd rfl (Switch.eq_of_ofShort? found).1
  · exact ⟨(Switch.eq_of_ofShort? found).2 rfl, fresh, rfl⟩

/-- Letters are taken together only if there is a single one. -/
theorem takeShorts_cases {letter : Char} {letters : List Char}
    (taken : (letter :: letters).foldlM takeShort given = .ok next) :
    letter = 'v' ∧ letters = [] ∧ next = given.add ⟨false, true⟩ := by
  obtain ⟨middle, first, others⟩ := exists_of_foldlM_cons taken
  obtain ⟨rfl, _, rfl⟩ := takeShort_cases first
  cases letters with
  | nil =>
    cases others
    exact ⟨rfl, rfl, rfl⟩
  | cons letter letters =>
    obtain ⟨last, second, _⟩ := exists_of_foldlM_cons others
    exact absurd (takeShort_cases second).2.1 (by simp [add, Flags.union])

theorem inForce_takeFile (taken : given.takeFile argument = .ok next) :
    next.inForce = given.inForce := by
  unfold takeFile at taken
  split at taken <;> cases taken
  rfl

/-- An argument that is taken is a command, a flag or a file. -/
theorem take_cases (taken : given.take argument = .ok next) :
    (∃ command, given.command.next? argument = some command ∧ next = given.start command) ∨
      (IsFlag argument ∧ next = given.add (Flags.ofArgument argument)) ∨
      (IsFile argument ∧ given.takeFile argument = .ok next) := by
  unfold take at taken
  split at taken
  · rename_i command found
    cases taken
    exact .inl ⟨command, found, rfl⟩
  · right
    split at taken
    · rename_i name spelled
      have spelled : argument = "--" ++ String.ofList name := by
        rw [← String.toList_inj, spelled]
        simp
      rcases takeSwitch_cases taken with ⟨found, _, rfl⟩ | ⟨found, _, rfl⟩
      · rw [(Switch.eq_of_ofLong? found).1 rfl] at spelled
        rw [spelled]
        exact .inl ⟨.inl rfl, rfl⟩
      · rw [(Switch.eq_of_ofLong? found).2 rfl] at spelled
        rw [spelled]
        exact .inl ⟨.inr (.inl rfl), rfl⟩
    · rename_i letter letters other spelled
      obtain ⟨rfl, rfl, rfl⟩ := takeShorts_cases taken
      have spelled : argument = "-v" := String.toList_inj.mp spelled
      rw [spelled]
      exact .inl ⟨.inr (.inr rfl), rfl⟩
    · rename_i long short
      refine .inr ⟨?_, taken⟩
      rw [IsFile, or_iff_not_imp_right, not_not]
      intro dash
      obtain ⟨rest, spelled⟩ := List.head?_eq_some_iff.mp dash
      cases rest with
      | nil => exact String.toList_inj.mp spelled
      | cons letter letters => exact absurd spelled (short letter letters)

theorem inForce_take (taken : given.take argument = .ok next) :
    next.inForce = given.inForce.union (Flags.ofArgument argument) := by
  rcases take_cases taken with ⟨command, found, rfl⟩ | ⟨_, rfl⟩ | ⟨proper, taken⟩
  · rw [inForce_start, Command.ofArgument_of_next? found, Flags.union_none]
  · exact inForce_add given _
  · rw [inForce_takeFile taken, ofArgument_of_isFile proper, Flags.union_none]

theorem inForce_takeFiles (taken : arguments.foldlM takeFile given = .ok next) :
    next.inForce = given.inForce := by
  induction arguments generalizing given with
  | nil =>
    cases taken
    rfl
  | cons argument rest ih =>
    obtain ⟨middle, first, others⟩ := exists_of_foldlM_cons taken
    exact (ih others).trans (inForce_takeFile first)

theorem inForce_takeAll (taken : given.takeAll arguments = .ok next) :
    next.inForce =
      given.inForce.union (Flags.ofArguments (arguments.takeWhile (· ≠ "--"))) := by
  induction arguments generalizing given with
  | nil =>
    cases taken
    exact (Flags.union_none _).symm
  | cons argument rest ih =>
    rw [takeAll] at taken
    split at taken
    · rename_i ends
      rw [inForce_takeFiles taken, List.takeWhile_cons_of_neg (by simp [ends])]
      exact (Flags.union_none _).symm
    · rename_i goesOn
      split at taken
      · cases taken
      · obtain ⟨middle, first, others⟩ := exists_of_bind_eq_ok taken
        rw [ih others, inForce_take first, List.takeWhile_cons_of_pos (by simp [goesOn]),
          Flags.ofArguments_cons, Flags.union_assoc]

/-- A flag is taken unless it has been given already. -/
theorem take_flag (isFlag : IsFlag argument)
    (fresh : (Flags.ofArgument argument).Apart given.flags) :
    given.take argument = .ok (given.add (Flags.ofArgument argument)) := by
  have other : given.command.next? argument = none := by
    unfold Command.next?
    split
    · rcases isFlag with rfl | rfl | rfl <;> rfl
    · rfl
  rcases isFlag with rfl | rfl | rfl
  · have json : given.flags.json = false := by simpa [Flags.ofArgument] using fresh.1
    rw [take, other]
    exact takeSwitch_json.trans (if_neg (by simp [json]))
  · have verbose : given.flags.verbose = false := by simpa [Flags.ofArgument] using fresh.2
    rw [take, other]
    exact takeSwitch_verbose.trans (if_neg (by simp [verbose]))
  · have verbose : given.flags.verbose = false := by simpa [Flags.ofArgument] using fresh.2
    have short : given.takeShort 'v' = .ok (given.add ⟨false, true⟩) :=
      takeSwitch_verbose.trans (if_neg (by simp [verbose]))
    rw [take, other]
    change ['v'].foldlM takeShort given = _
    rw [List.foldlM_cons, short]
    rfl

/-- An argument that is no command and no option is taken as the file. -/
theorem take_file (proper : IsFile argument) (other : given.command.next? argument = none) :
    given.take argument = given.takeFile argument := by
  rw [take, other]
  split
  · rename_i command found
    cases found
  · split
    · rename_i name spelled
      rcases proper with rfl | plain
      · cases spelled
      · exact absurd (congrArg List.head? spelled) plain
    · rename_i letter letters long spelled
      rcases proper with rfl | plain
      · cases spelled
      · exact absurd (congrArg List.head? spelled) plain
    · rfl

theorem takeAll_flags {options : List String} (flags : ∀ option ∈ options, IsFlag option)
    (once : options.Pairwise fun first second =>
      (Flags.ofArgument second).Apart (Flags.ofArgument first))
    (fresh : ∀ option ∈ options, (Flags.ofArgument option).Apart given.flags)
    (rest : List String) :
    given.takeAll (options ++ rest) = (given.add (Flags.ofArguments options)).takeAll rest := by
  induction options generalizing given with
  | nil => rw [List.nil_append, Flags.ofArguments, List.map_nil, List.foldr_nil, add_none]
  | cons option options ih =>
    rw [List.forall_mem_cons] at flags fresh
    rw [List.pairwise_cons] at once
    have goesOn : option ≠ "--" ∧ option ≠ "help" := by
      rcases flags.1 with rfl | rfl | rfl <;> decide
    have later : ∀ second ∈ options,
        (Flags.ofArgument second).Apart (given.add (Flags.ofArgument option)).flags :=
      fun second member => (fresh.2 second member).union (once.1 second member)
    rw [List.cons_append, takeAll, if_neg goesOn.1, if_neg fun help => goesOn.2 help.2,
      take_flag flags.1 fresh.1]
    exact (ih flags.2 once.2 later).trans (by rw [add_add, Flags.ofArguments_cons])

end Arguments

/-- Flags in any order, none of them given twice. -/
structure Options (options : List String) : Prop where
  flags : ∀ option ∈ options, IsFlag option
  once : options.Pairwise fun first second =>
    (Flags.ofArgument second).Apart (Flags.ofArgument first)

theorem Options.left {first second : List String} (options : Options (first ++ second)) :
    Options first where
  flags option member := options.flags option (List.mem_append_left second member)
  once := (List.pairwise_append.mp options.once).1

theorem Options.right {first second : List String} (options : Options (first ++ second)) :
    Options second where
  flags option member := options.flags option (List.mem_append_right first member)
  once := (List.pairwise_append.mp options.once).2.1

theorem Flags.apart_ofArguments {flags : Flags} {arguments : List String}
    (apart : ∀ argument ∈ arguments, flags.Apart (ofArgument argument)) :
    flags.Apart (ofArguments arguments) := by
  induction arguments with
  | nil => exact apart_none flags
  | cons argument rest ih =>
    rw [List.forall_mem_cons] at apart
    exact apart.1.union (ih apart.2)

/-- The file can be taken next. -/
structure Arguments.Awaits (given : Arguments) (file : String) : Prop where
  proper : IsFile file
  named : file ≠ ""
  room : given.command ≠ .version ∧ given.file = none
  other : given.command.next? file = none ∧ ¬(given.command = .plain ∧ file = "help")

theorem Arguments.Awaits.takeAll {given : Arguments} {file : String} (awaits : given.Awaits file)
    (rest : List String) :
    given.takeAll (file :: rest) = { given with file := some file }.takeAll rest := by
  have goesOn : file ≠ "--" := by
    rintro rfl
    rcases awaits.proper with same | plain
    · exact absurd same (by decide)
    · exact plain rfl
  have taken : given.takeFile file = .ok { given with file := some file } := by
    refine if_neg ?_
    simpa [awaits.room.2, awaits.named] using awaits.room.1
  rw [Arguments.takeAll, if_neg goesOn, if_neg awaits.other.2,
    take_file awaits.proper awaits.other.1, taken]
  rfl

/-- Options around a file are taken with it. -/
theorem Arguments.takeAll_around_file {given : Arguments} {before after : List String}
    {file : String} (options : Options (before ++ after)) (awaits : given.Awaits file)
    (anew : given.flags = .none) :
    given.takeAll (before ++ file :: after) =
      .ok { given with file := some file, flags := Flags.ofArguments (before ++ after) } := by
  let seen : Arguments := given.add (Flags.ofArguments before)
  have seenFlags : seen.flags = Flags.ofArguments before := by
    rw [← Flags.none_union (Flags.ofArguments before), ← anew]
    rfl
  have early : ∀ option ∈ before, (Flags.ofArgument option).Apart given.flags := by
    intro option _
    rw [anew]
    exact Flags.apart_none _
  let filed : Arguments := { seen with file := some file }
  have late : ∀ option ∈ after, (Flags.ofArgument option).Apart filed.flags := by
    intro option member
    change (Flags.ofArgument option).Apart seen.flags
    rw [seenFlags]
    refine Flags.apart_ofArguments fun argument known => ?_
    exact (List.pairwise_append.mp options.once).2.2 argument known option member
  have awaits' : seen.Awaits file :=
    ⟨awaits.proper, awaits.named, awaits.room, awaits.other⟩
  calc given.takeAll (before ++ file :: after)
    _ = seen.takeAll (file :: after) :=
      takeAll_flags options.left.flags options.left.once early _
    _ = filed.takeAll (after ++ []) := by
      rw [awaits'.takeAll, List.append_nil]
    _ = (filed.add (Flags.ofArguments after)).takeAll [] :=
      takeAll_flags options.right.flags options.right.once late []
    _ = _ := by
      rw [takeAll, Flags.ofArguments_append, ← seenFlags]
      rfl

/-- Arguments that ask for a task on a file: the file alone or after its command, with options
anywhere. What is given before a command may be given once more after it. -/
inductive Asks (file : String) : (Bool → Task) → List String → Prop where
  | plain {before after : List String} (options : Options (before ++ after))
      (other : file ∉ ["check", "tokens", "version", "help"]) :
      Asks file (.check file) (before ++ file :: after)
  | check {early before after : List String} (first : Options early)
      (options : Options (before ++ after)) :
      Asks file (.check file) (early ++ "check" :: (before ++ file :: after))
  | tokens {early before after : List String} (first : Options early)
      (options : Options (before ++ after)) :
      Asks file (fun _ => .tokens file) (early ++ "tokens" :: (before ++ file :: after))

theorem Arguments.takeAll_command {early before after : List String} {name file : String}
    {command : Command} (first : Options early) (options : Options (before ++ after))
    (found : Command.plain.next? name = some command)
    (other : command ≠ .plain ∧ command ≠ .version ∧ name ≠ "--" ∧ name ≠ "help")
    (proper : IsFile file) (named : file ≠ "") :
    empty.takeAll (early ++ name :: (before ++ file :: after)) =
      .ok ⟨Flags.ofArguments early, command, Flags.ofArguments (before ++ after), some file⟩ := by
  let seen : Arguments := empty.add (Flags.ofArguments early)
  let started : Arguments := ⟨Flags.ofArguments early, command, .none, none⟩
  have fresh : ∀ option ∈ early, (Flags.ofArgument option).Apart empty.flags :=
    fun option _ => Flags.apart_none _
  have taken : seen.take name = .ok started := by
    have next : seen.command.next? name = some command := found
    rw [take, next]
    simp only [seen, started, start, add, empty, Flags.none_union]
  have awaits : started.Awaits file :=
    ⟨proper, named, ⟨other.2.1, rfl⟩, if_neg other.1, fun plain => other.1 plain.1⟩
  calc empty.takeAll (early ++ name :: (before ++ file :: after))
    _ = seen.takeAll (name :: (before ++ file :: after)) :=
      takeAll_flags first.flags first.once fresh _
    _ = started.takeAll (before ++ file :: after) := by
      rw [takeAll, if_neg other.2.2.1, if_neg fun help => other.2.2.2 help.2, taken]
      rfl
    _ = _ := takeAll_around_file options awaits rfl

/-- Such arguments are understood, with the flags that stand among them. -/
theorem parse_of_asks {file : String} {task : Bool → Task} {arguments : List String}
    (proper : IsFile file) (named : file ≠ "") (asks : Asks file task arguments) :
    parse arguments = .ok
      ⟨task (Flags.ofArguments arguments).json, (Flags.ofArguments arguments).verbose⟩ := by
  have none := ofArgument_of_isFile proper
  cases asks with
  | plain options other =>
    simp only [List.mem_cons, List.not_mem_nil, or_false, not_or] at other
    have next : Command.plain.next? file = Option.none := by
      rw [Command.next?, if_pos rfl, Command.ofName?]
      · exact other.1
      · exact other.2.1
      · exact other.2.2.1
    have awaits : Arguments.empty.Awaits file :=
      ⟨proper, named, ⟨by decide, rfl⟩, next, fun help => other.2.2.2 help.2⟩
    rw [parse, Arguments.takeAll_around_file options awaits rfl]
    simp [Except.bind, Arguments.invocation, Arguments.empty, Flags.none_union,
      Flags.ofArguments_append, Flags.ofArguments_cons, none]
  | check first options =>
    rw [parse, Arguments.takeAll_command first options rfl (by decide) proper named]
    have command : Flags.ofArgument "check" = .none := rfl
    simp [Except.bind, Arguments.invocation, Flags.none_union, Flags.ofArguments_append,
      Flags.ofArguments_cons, none, command]
  | tokens first options =>
    rw [parse, Arguments.takeAll_command first options rfl (by decide) proper named]
    have command : Flags.ofArgument "tokens" = .none := rfl
    simp [Except.bind, Arguments.invocation, Flags.none_union, Flags.ofArguments_append,
      Flags.ofArguments_cons, none, command]

/-- Whatever arguments are understood, the flags among them decide how. -/
theorem flags_of_parse {arguments : List String} {file : String} {json verbose : Bool}
    (parsed : parse arguments = .ok ⟨.check file json, verbose⟩) :
    Flags.mk json verbose = Flags.ofArguments (arguments.takeWhile (· ≠ "--")) := by
  obtain ⟨given, taken, invoked⟩ := exists_of_bind_eq_ok parsed
  have inForce := Arguments.inForce_takeAll taken
  have start : Arguments.empty.inForce = .none := Flags.none_union _
  rw [start, Flags.none_union] at inForce
  rw [← inForce]
  unfold Arguments.invocation at invoked
  split at invoked <;> cases invoked <;> rfl

end DeclCheck.CommandLine
