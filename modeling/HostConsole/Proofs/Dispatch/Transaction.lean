/-
One line is one transaction. `Transaction` says case by case what a line leads to: the outcome, the world afterwards,
the entries appended to the log, and the runs of handlers. A line without words does nothing; a line that asks for help
is answered by one plain entry; a line is refused with one warning when no command has its name, else when the
arguments are too few or too many, else at the first argument that does not read; and any other line runs the handler
of its command, once, on the values of its arguments, with one error at the end if the handler fails.

Result: `execute_transaction`. In every catalog reached by registering, a line leads to exactly one of these cases, and
the runs are those that the traced host sees.

The console's own records, of the levels debug and trace, are left out, so that the entries are complete for filters
that let neither of these levels through. Under the filter up to info a handler may append any entries of its own.
-/
import HostConsole.Proofs.Catalog.Invariant
import HostConsole.Proofs.Dispatch.Traced

namespace HostConsole.Catalog

variable {H : Host} {catalog : Catalog H} {captured : LevelFilter} {text : String} {world : H.World}
  {command : Command H} {rest : List String}

/-! ## The cases -/

/-- the first word of a line, in lowercase, names a command, and these are the other words -/
structure Calls (catalog : Catalog H) (text : String) (command : Command H) (rest : List String) : Prop where
  mem : command ∈ catalog.commands
  words : ∃ first, Text.words text = first :: rest ∧ Text.lower first = command.name

/-- there is a word for every parameter, and these are the values they read as -/
structure Reads (words : List String) (parameters : List Parameter) (values : List Value) : Prop where
  length : words.length = parameters.length
  read : List.zipWith (fun word parameter => parameter.type.read? word) words parameters = values.map some

/-- a line refused before anything ran: the world is as it was, and there is one warning -/
def refusal (fault : Fault) (world : H.World) : Execution H :=
  ⟨.error fault, world, [⟨.warning, fault.message⟩]⟩

/-- what a line leads to, and the runs of handlers on the way -/
inductive Transaction (catalog : Catalog H) (captured : LevelFilter) (text : String) (world : H.World) :
    Execution H → List (Run H) → Prop
  | blank (words : Text.words text = []) :
    Transaction catalog captured text world ⟨.ok .blank, world, []⟩ []
  | help {first : String} {rest : List String} (words : Text.words text = first :: rest)
    (asked : Text.lower first = helpWord) :
    Transaction catalog captured text world ⟨.ok .help, world, [⟨.info, catalog.help rest⟩]⟩ []
  | unknownCommand {first : String} {rest : List String} (words : Text.words text = first :: rest)
    (not_asked : Text.lower first ≠ helpWord)
    (unknown : ∀ command ∈ catalog.commands, command.name ≠ Text.lower first) :
    Transaction catalog captured text world (refusal (.unknownCommand (Text.lower first)) world) []
  | wrongCount {command : Command H} {rest : List String} (called : Calls catalog text command rest)
    (count : rest.length ≠ command.parameters.length) :
    Transaction catalog captured text world
      (refusal (.wrongCount command.name command.parameters.length rest.length) world) []
  | badArgument {command : Command H} {rest : List String} {i : ℕ} {word : String} {parameter : Parameter}
    (called : Calls catalog text command rest) (count : rest.length = command.parameters.length)
    (first : Parameter.FirstUnread rest command.parameters i word parameter) :
    Transaction catalog captured text world
      (refusal (.badArgument command.name ⟨i + 1, word, parameter.type⟩) world) []
  | finished {command : Command H} {rest : List String} {values : List Value} {scope : Scope H}
    (called : Calls catalog text command rest) (read : Reads rest command.parameters values)
    (ran : command.invoke ⟨values⟩ ⟨world, []⟩ = .ok () scope) :
    Transaction catalog captured text world
      ⟨.ok (.invoked command.name), scope.world, scope.records.filterMap captured.entry?⟩ [⟨command, values⟩]
  | failed {command : Command H} {rest : List String} {values : List Value} {failure : Failure} {scope : Scope H}
    (called : Calls catalog text command rest) (read : Reads rest command.parameters values)
    (ran : command.invoke ⟨values⟩ ⟨world, []⟩ = .error failure scope) :
    Transaction catalog captured text world
      ⟨.error (.failed command.name failure.message), scope.world, scope.records.filterMap captured.entry? ++
        [⟨.error, (Fault.failed command.name failure.message).message⟩]⟩ [⟨command, values⟩]

/-! ## Calls -/

theorem read?_of_words {first : String} (h : Text.words text = first :: rest) :
    Line.read? text = some ⟨Text.lower first, rest⟩ := by
  rw [Line.read?, h]

theorem Calls.read? (h : Calls catalog text command rest) : Line.read? text = some ⟨command.name, rest⟩ := by
  obtain ⟨first, hw, hname⟩ := h.words
  rw [read?_of_words hw, hname]

theorem Calls.not_asked (hs : Sound catalog) (h : Calls catalog text command rest) : command.name ≠ helpWord :=
  hs.not_reserved command h.mem

theorem Calls.find? (hs : Sound catalog) (h : Calls catalog text command rest) :
    catalog.find? command.name = some command :=
  (find?_eq_some_iff hs).2 ⟨h.mem, (hs.folded command h.mem).symm⟩

/-- the first word of a line finds nothing if no command has its lowercase for a name -/
theorem find?_eq_none_of_words {first : String} (hs : Sound catalog) (hw : Text.words text = first :: rest)
    (h : ∀ command ∈ catalog.commands, command.name ≠ Text.lower first) : catalog.find? (Text.lower first) = none := by
  have hword : Text.IsWord first.toList := Text.isWord_of_mem_words (by rw [hw]; exact List.mem_cons_self)
  rw [Option.eq_none_iff_forall_ne_some]
  intro command hf
  obtain ⟨hm, hname⟩ := (find?_eq_some_iff hs).1 hf
  exact h command hm (hname.trans (Text.foldName_lower hword.2))

/-! ## Preparing a line -/

theorem prepare_wrongCount {line : Line} (hf : catalog.find? line.command = some command)
    (hc : line.arguments.length ≠ command.parameters.length) : catalog.prepare line =
      .error (.wrongCount line.command command.parameters.length line.arguments.length) := by
  simp [prepare, hf, hc]

theorem prepare_badArgument {line : Line} {i : ℕ} {word : String} {parameter : Parameter}
    (hf : catalog.find? line.command = some command) (hc : line.arguments.length = command.parameters.length)
    (hu : Parameter.FirstUnread line.arguments command.parameters i word parameter) :
    catalog.prepare line = .error (.badArgument line.command ⟨i + 1, word, parameter.type⟩) := by
  have hb : Parameter.bind line.arguments command.parameters = .error ⟨i + 1, word, parameter.type⟩ :=
    Parameter.bindFrom_error_iff.2 ⟨i, parameter, hu, Nat.add_comm i 1, rfl⟩
  simp [prepare, hf, hc, hb]

theorem prepare_ok {line : Line} {values : List Value} (hf : catalog.find? line.command = some command)
    (hr : Reads line.arguments command.parameters values) : catalog.prepare line = .ok (command, values) := by
  have hb : Parameter.bind line.arguments command.parameters = .ok values := Parameter.bindFrom_ok_iff.2 hr.read
  simp [prepare, hf, hr.length, hb]

/-! ## Executing it -/

theorem execute_of_error {line : Line} {fault : Fault} (hr : Line.read? text = some line)
    (hne : line.command ≠ helpWord) (hp : catalog.prepare line = .error fault) :
    catalog.execute captured text world = ⟨.error fault, world, [fault.entry]⟩ ∧ catalog.ran text = [] := by
  simp [execute, ran, hr, hne, hp]

theorem execute_of_finished {line : Line} {values : List Value} {scope : Scope H}
    (hr : Line.read? text = some line) (hne : line.command ≠ helpWord)
    (hp : catalog.prepare line = .ok (command, values)) (hi : command.invoke ⟨values⟩ ⟨world, []⟩ = .ok () scope) :
    catalog.execute captured text world =
        ⟨.ok (.invoked line.command), scope.world, scope.records.filterMap captured.entry?⟩ ∧
      catalog.ran text = [⟨command, values⟩] := by
  simp [execute, ran, hr, hne, hp, invoke, hi]

theorem execute_of_failed {line : Line} {values : List Value} {failure : Failure} {scope : Scope H}
    (hr : Line.read? text = some line) (hne : line.command ≠ helpWord)
    (hp : catalog.prepare line = .ok (command, values))
    (hi : command.invoke ⟨values⟩ ⟨world, []⟩ = .error failure scope) :
    catalog.execute captured text world =
        ⟨.error (.failed command.name failure.message), scope.world, scope.records.filterMap captured.entry? ++
          [(Fault.failed command.name failure.message).entry]⟩ ∧
      catalog.ran text = [⟨command, values⟩] := by
  simp [execute, ran, hr, hne, hp, invoke, hi]

/-- a line does what a case says, whichever case it is -/
theorem Transaction.eq_execute {execution : Execution H} {runs : List (Run H)} (hs : Sound catalog)
    (h : Transaction catalog captured text world execution runs) :
    catalog.execute captured text world = execution ∧ catalog.ran text = runs := by
  cases h with
  | blank hw => simp [execute, ran, Line.read?, hw]
  | help hw hasked => simp [execute, ran, read?_of_words hw, hasked]
  | unknownCommand hw hne hunknown =>
    exact execute_of_error (read?_of_words hw) hne (by simp [prepare, find?_eq_none_of_words hs hw hunknown])
  | wrongCount hcalled hcount =>
    exact execute_of_error hcalled.read? (hcalled.not_asked hs) (prepare_wrongCount (hcalled.find? hs) hcount)
  | badArgument hcalled hcount hfirst =>
    exact execute_of_error hcalled.read? (hcalled.not_asked hs) (prepare_badArgument (hcalled.find? hs) hcount hfirst)
  | finished hcalled hread hran =>
    exact execute_of_finished hcalled.read? (hcalled.not_asked hs) (prepare_ok (hcalled.find? hs) hread) hran
  | failed hcalled hread hran =>
    exact execute_of_failed hcalled.read? (hcalled.not_asked hs) (prepare_ok (hcalled.find? hs) hread) hran

/-- a line that calls a command with enough words is refused at the first one that does not read, or runs the command -/
theorem exists_transaction_of_calls (hcalled : Calls catalog text command rest)
    (hcount : rest.length = command.parameters.length) :
    ∃ execution runs, Transaction catalog captured text world execution runs := by
  cases hb : Parameter.bind rest command.parameters with
  | error bad =>
    obtain ⟨i, parameter, hu, -, -⟩ := Parameter.bindFrom_error_iff.1 hb
    exact ⟨_, _, .badArgument hcalled hcount hu⟩
  | ok values =>
    have hread : Reads rest command.parameters values := ⟨hcount, Parameter.bindFrom_ok_iff.1 hb⟩
    cases hi : command.invoke ⟨values⟩ ⟨world, []⟩ with
    | ok _ scope => exact ⟨_, _, .finished hcalled hread hi⟩
    | error failure scope => exact ⟨_, _, .failed hcalled hread hi⟩

/-- every line falls under some case -/
theorem exists_transaction (catalog : Catalog H) (captured : LevelFilter) (text : String) (world : H.World) :
    ∃ execution runs, Transaction catalog captured text world execution runs := by
  cases hw : Text.words text with
  | nil => exact ⟨_, _, .blank hw⟩
  | cons first rest =>
    by_cases hasked : Text.lower first = helpWord
    · exact ⟨_, _, .help hw hasked⟩
    · by_cases hknown : ∃ command ∈ catalog.commands, command.name = Text.lower first
      · obtain ⟨command, hm, hname⟩ := hknown
        have hcalled : Calls catalog text command rest := ⟨hm, first, hw, hname.symm⟩
        by_cases hcount : rest.length = command.parameters.length
        · exact exists_transaction_of_calls hcalled hcount
        · exact ⟨_, _, .wrongCount hcalled hcount⟩
      · push Not at hknown
        exact ⟨_, _, .unknownCommand hw hasked hknown⟩

/-- **A line is one transaction**: in every catalog reached by registering it leads to exactly one case, and the runs
of handlers are those that the traced host sees, whatever handlers do. -/
theorem execute_transaction (calls : List (Call H)) (captured : LevelFilter) (text : String) (world : H.World) :
    let catalog := (empty : Catalog H).registerAll calls
    ∃ runs, Transaction catalog captured text world (catalog.execute captured text world) runs ∧
      (∀ earlier, catalog.traced.execute captured text (world, earlier) =
        (catalog.execute captured text world).traced (earlier ++ runs)) ∧
      ∀ execution others, Transaction catalog captured text world execution others →
        execution = catalog.execute captured text world ∧ others = runs := by
  intro catalog
  have hs : Sound catalog := sound_registerAll sound_empty calls
  obtain ⟨execution, runs, h⟩ := exists_transaction catalog captured text world
  obtain ⟨rfl, hruns⟩ := h.eq_execute hs
  refine ⟨runs, h, fun earlier => by rw [execute_traced, hruns], fun execution others hother => ?_⟩
  obtain ⟨hexecution, hothers⟩ := hother.eq_execute hs
  exact ⟨hexecution.symm, hothers.symm.trans hruns⟩

end HostConsole.Catalog
