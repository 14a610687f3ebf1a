/-
Which handlers run. The traced host keeps, beside the world, every run of a handler in the order of the runs, with the
command and the values it ran on; handlers neither see that list nor change it. A traced catalog has the commands of
the original one, each of them noting its runs.

Result: `execute_traced`. A line does in the traced catalog what it does in the original one, and adds to the list the
runs that preparing the line calls for (`ran`): one if the line is prepared, and none otherwise.
-/
import HostConsole.Dispatch

namespace HostConsole

/-- one run of a handler: the command, and the values it ran on -/
structure Run (H : Host) where
  command : Command H
  values : List Value

/-- the host with every run of a handler kept beside its world -/
def Host.traced (H : Host) : Host where
  World := H.World × List (Run H)
  Kind := H.Kind
  Instance := H.Instance
  kindName := H.kindName

variable {H : Host}

/-- the world and the runs, with the records emitted -/
def Scope.traced (scope : Scope H) (runs : List (Run H)) : Scope H.traced :=
  ⟨(scope.world, runs), scope.records⟩

/-- the scope without the runs -/
def Scope.plain (scope : Scope H.traced) : Scope H :=
  ⟨scope.world.1, scope.records⟩

/-- the receiver as one of the traced host -/
def Receiver.traced (receiver : Receiver H) : Receiver H.traced :=
  ⟨receiver.kind, receiver.ref⟩

/-- the receiver as one of the original host -/
def Receiver.plain (receiver : Receiver H.traced) : Receiver H :=
  ⟨receiver.kind, receiver.ref⟩

/-- the execution with the runs afterwards -/
def Execution.traced (execution : Execution H) (runs : List (Run H)) : Execution H.traced :=
  ⟨execution.outcome, (execution.world, runs), execution.entries⟩

namespace Command

/-- a handler that notes its runs as runs of the command -/
def noting (command : Command H) (run : Handler H) : Handler H.traced := fun arguments scope =>
  let runs := scope.world.2 ++ [⟨command, arguments.values⟩]
  match run arguments scope.plain with
  | .ok _ after => .ok () (after.traced runs)
  | .error failure after => .error failure (after.traced runs)

/-- the command of the traced host -/
def traced (command : Command H) : Command H.traced where
  name := command.name
  description := command.description
  parameters := command.parameters
  target :=
    match command.target with
    | .free run => .free (command.noting run)
    | .bound receiver run => .bound receiver.traced fun other => command.noting (run other.plain)

@[simp] theorem traced_parameters (command : Command H) : command.traced.parameters = command.parameters := rfl

theorem traced_invoke (command : Command H) : command.traced.invoke = command.noting command.invoke := by
  unfold invoke traced
  cases command.target <;> rfl

end Command

namespace Catalog

/-- the catalog of the traced host: the same commands under the same names -/
def traced (catalog : Catalog H) : Catalog H.traced :=
  ⟨catalog.commands.map Command.traced, catalog.index⟩

theorem find?_traced (catalog : Catalog H) (name : String) :
    catalog.traced.find? name = (catalog.find? name).map Command.traced := by
  simp only [find?, traced]
  cases catalog.index[Text.foldName name]? <;> simp

theorem prepare_traced (catalog : Catalog H) (line : Line) :
    catalog.traced.prepare line = (catalog.prepare line).map (Prod.map Command.traced id) := by
  unfold prepare
  rw [find?_traced]
  cases catalog.find? line.command with
  | none => rfl
  | some command =>
    by_cases hc : line.arguments.length = command.parameters.length
    · simp only [Option.map_some, Command.traced_parameters, hc, ne_eq, not_true_eq_false, if_false]
      cases Parameter.bind line.arguments command.parameters <;> rfl
    · simp only [Option.map_some, Command.traced_parameters, hc, ne_eq, not_false_eq_true, if_true]
      rfl

theorem help_traced (catalog : Catalog H) (words : List String) : catalog.traced.help words = catalog.help words := by
  cases words with
  | nil =>
    have hempty : catalog.traced.isEmpty = catalog.isEmpty := by simp [isEmpty, traced, Array.isEmpty]
    have hlines : catalog.traced.commands.toList.map Command.helpLine =
        catalog.commands.toList.map Command.helpLine := by
      simp only [traced, Array.toList_map, List.map_map]
      rfl
    simp only [help, helpListing, hempty, hlines]
  | cons name rest =>
    simp only [help, helpPage, find?_traced]
    cases catalog.find? name <;> rfl

/-- a command of the traced catalog does what it does, and its run is noted -/
theorem invoke_traced (captured : LevelFilter) (command : Command H) (values : List Value) (world : H.World)
    (runs : List (Run H)) :
    invoke captured command.traced values (world, runs) =
      let result := invoke captured command values world
      (result.1, (result.2.1, runs ++ [⟨command, values⟩]), result.2.2) := by
  simp only [invoke, Command.traced_invoke, Command.noting, Scope.plain]
  cases command.invoke ⟨values⟩ ⟨world, []⟩ <;> rfl

/-- the runs of handlers a line leads to -/
def ran (catalog : Catalog H) (text : String) : List (Run H) :=
  match Line.read? text with
  | none => []
  | some line =>
    if line.command = helpWord then []
    else
      match catalog.prepare line with
      | .error _ => []
      | .ok (command, values) => [⟨command, values⟩]

/-- **Tracing is exact**: outcome, world and entries are those of the original catalog -/
theorem execute_traced (catalog : Catalog H) (captured : LevelFilter) (text : String) (world : H.World)
    (runs : List (Run H)) :
    catalog.traced.execute captured text (world, runs) =
      (catalog.execute captured text world).traced (runs ++ catalog.ran text) := by
  simp only [execute, ran]
  cases Line.read? text with
  | none => simp [Execution.traced]
  | some line =>
    by_cases hhelp : line.command = helpWord
    · simp [hhelp, Execution.traced, help_traced]
    · simp only [hhelp, if_false, prepare_traced]
      cases catalog.prepare line with
      | error fault => simp [Except.map, Execution.traced]
      | ok prepared =>
        obtain ⟨command, values⟩ := prepared
        simp only [Except.map, Prod.map, id_eq, invoke_traced]
        rcases invoke captured command values world with ⟨_ | failure, after, entries⟩ <;> rfl

end Catalog

end HostConsole
