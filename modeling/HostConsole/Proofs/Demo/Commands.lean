/-
What the stock commands do to the world of the demonstration host. Its catalog holds the five of them (`Stock`) and
nothing else, and each has one equation for a run of its handler: the world it leaves behind, and the records it emits.

Result: `Stock.invoke_cases`. A stock command turns the world into the one that `Stock.next?` says, or it fails and
leaves the world as it was.
-/
import HostConsole.Demo.Host
import HostConsole.Proofs.Catalog.Binding
import HostConsole.Proofs.Catalog.Selection

namespace HostConsole

/-! ## Running actions -/

namespace Action

variable {H : Host} {α β : Type} (scope : Scope H)

@[simp] theorem bind_apply (first : Action H α) (next : α → Action H β) : (first >>= next) scope =
    match first scope with
    | .ok a scope => next a scope
    | .error failure scope => .error failure scope := by
  change EStateM.bind first next scope = _
  unfold EStateM.bind
  cases first scope <;> rfl

@[simp] theorem world_apply : (world : Action H H.World) scope = .ok scope.world scope := rfl

@[simp] theorem change_apply (f : H.World → H.World) :
    change f scope = .ok () { scope with world := f scope.world } := rfl

@[simp] theorem emit_apply (level : Level) (message : String) :
    emit level message scope = .ok () { scope with records := scope.records ++ [⟨level, message⟩] } := rfl

@[simp] theorem fail_apply (message : String) :
    (fail message : Action H α) scope = .error (.error [message]) scope := rfl

@[simp] theorem argument_ok_apply (a : α) : argument (.ok a) scope = .ok a scope := rfl

/-- emitting one message after the other adds their records and leaves the world -/
theorem forM_emit_apply (level : Level) (messages : List String) : messages.forM (emit level) scope =
    .ok () { scope with records := scope.records ++ messages.map (⟨level, ·⟩) } := by
  rw [List.forM_eq_forM]
  induction messages generalizing scope with
  | nil => simp; rfl
  | cons message messages ih =>
    rw [List.forM_cons, bind_apply, emit_apply]
    simp [ih]

end Action

/-! ## Reading up to one word -/

namespace Catalog

variable {words : List String} {values : List Value}

theorem reads_nil_iff : Reads words [] values ↔ words = [] ∧ values = [] := by
  constructor
  · intro h
    exact ⟨List.length_eq_zero_iff.1 h.length, List.length_eq_zero_iff.1 h.length_values⟩
  · rintro ⟨rfl, rfl⟩
    exact ⟨rfl, rfl⟩

theorem reads_singleton_iff {parameter : Parameter} : Reads words [parameter] values ↔
    ∃ word value, words = [word] ∧ values = [value] ∧ parameter.type.read? word = some value := by
  constructor
  · intro h
    obtain ⟨word, rfl⟩ := List.length_eq_one_iff.1 h.length
    obtain ⟨value, rfl⟩ := List.length_eq_one_iff.1 h.length_values
    have hread := h.read
    simp only [List.zipWith_cons_cons, List.zipWith_nil_right, List.map_cons, List.map_nil, List.cons.injEq,
      and_true] at hread
    exact ⟨word, value, rfl, rfl, hread⟩
  · rintro ⟨word, value, rfl, rfl, hread⟩
    exact ⟨rfl, by simp [hread]⟩

end Catalog

namespace Demo

open Catalog

variable {receivers : Receivers host} {command : Command host} {scope : Scope host}

/-! ## The catalog -/

/-- the stock commands -/
inductive Stock where
  | setTimescale
  | resetTimescale
  | reloadScene
  | listScenes
  | setScene

namespace Stock

/-- what is declared -/
def declaration : Stock → Declaration host
  | setTimescale => stage.setTimescale
  | resetTimescale => stage.resetTimescale
  | reloadScene => stage.reloadScene
  | listScenes => stage.listScenes
  | setScene => stage.setScene

/-- the name under which the command is kept -/
def name : Stock → String
  | setTimescale => "set_timescale"
  | resetTimescale => "reset_timescale"
  | reloadScene => "reload_scene"
  | listScenes => "list_scenes"
  | setScene => "set_scene"

/-- the parameters kept with it -/
def parameters : Stock → List Parameter
  | setTimescale => [⟨"value", .float⟩]
  | setScene => [⟨"scene_name", .text⟩]
  | _ => []

theorem name_injective : Function.Injective name := by
  intro stock other h
  cases stock <;> cases other <;> first | rfl | simp [name] at h

theorem key_declaration (stock : Stock) : stock.declaration.key = stock.name := by
  cases stock <;> decide +kernel

theorem map_parameters (stock : Stock) :
    stock.declaration.parameters.map Parameter.ofDeclaration = stock.parameters.map .ok := by
  cases stock <;> decide +kernel

theorem mem_declarations_iff {declaration : Declaration host} :
    declaration ∈ stage.declarations ↔ ∃ stock : Stock, declaration = stock.declaration := by
  constructor
  · intro h
    simp only [Stage.declarations, List.mem_cons, List.not_mem_nil, or_false] at h
    rcases h with h | h | h | h | h
    · exact ⟨setTimescale, h⟩
    · exact ⟨resetTimescale, h⟩
    · exact ⟨reloadScene, h⟩
    · exact ⟨listScenes, h⟩
    · exact ⟨setScene, h⟩
  · rintro ⟨stock, rfl⟩
    cases stock <;> simp [Stage.declarations, Stock.declaration]

theorem name_of_describes {stock : Stock} (h : stock.declaration.Describes receivers command) :
    command.name = stock.name :=
  h.name.trans stock.key_declaration

theorem parameters_of_describes {stock : Stock} (h : stock.declaration.Describes receivers command) :
    command.parameters = stock.parameters := by
  have hmap : stock.declaration.parameters.map Parameter.ofDeclaration = command.parameters.map .ok := by
    rw [← List.forall₂_eq_eq_eq, List.forall₂_map_left_iff, List.forall₂_map_right_iff]
    exact h.parameters
  rw [map_parameters] at hmap
  exact (List.map_injective_iff.2 fun _ _ => Except.ok.inj) hmap.symm

end Stock

/-- an instance of each kind is there -/
theorem exists_receiver (kind : Kind) : ∃ receiver ∈ setup.receivers.toList, receiver.kind = kind := by
  cases kind with
  | clock => exact ⟨⟨Kind.clock, ()⟩, .head _, rfl⟩
  | scenes => exact ⟨⟨Kind.scenes, ()⟩, .tail _ (.head _), rfl⟩

theorem valid_declarations : ∀ declaration ∈ stage.declarations, declaration.Valid setup.receivers := by
  intro declaration hmem
  obtain ⟨stock, rfl⟩ := Stock.mem_declarations_iff.1 hmem
  refine ⟨?_, ?_, ?_, ?_⟩
  · rw [stock.key_declaration, isWord_iff]
    cases stock <;> decide
  · rw [stock.key_declaration]
    cases stock <;> decide
  · intro text htext
    have hdeclared := List.mem_map_of_mem (f := Parameter.ofDeclaration) htext
    rw [stock.map_parameters] at hdeclared
    obtain ⟨parameter, -, hp⟩ := List.mem_map.1 hdeclared
    exact ⟨parameter, hp.symm⟩
  · intro kind run _
    exact exists_receiver kind

theorem nodup_keys : (stage.declarations.map Declaration.key).Nodup := by
  have hkeys : stage.declarations.map Declaration.key = [Stock.setTimescale.name, Stock.resetTimescale.name,
      Stock.reloadScene.name, Stock.listScenes.name, Stock.setScene.name] := by
    simp only [← Stock.key_declaration]
    rfl
  rw [hkeys]
  decide

/-- the catalog has the stock commands, in order, and no other ones -/
theorem describes_declarations :
    List.Forall₂ (Declaration.Describes setup.receivers) stage.declarations setup.build.1.commands.toList := by
  have hbuilt := (build_built setup.receivers stage.declarations).commands
  rwa [accepted_eq_self valid_declarations nodup_keys] at hbuilt

theorem exists_stock (h : command ∈ setup.build.1.commands) :
    ∃ stock : Stock, stock.declaration.Describes setup.receivers command := by
  obtain ⟨declaration, hmem, hd⟩ := exists_mem_of_forall₂ describes_declarations.flip (Array.mem_toList_iff.2 h)
  obtain ⟨stock, rfl⟩ := Stock.mem_declarations_iff.1 hmem
  exact ⟨stock, hd⟩

theorem exists_command (stock : Stock) :
    ∃ command ∈ setup.build.1.commands, stock.declaration.Describes setup.receivers command := by
  have hmem : stock.declaration ∈ stage.declarations := Stock.mem_declarations_iff.2 ⟨stock, rfl⟩
  obtain ⟨command, hcommand, hd⟩ := exists_mem_of_forall₂ describes_declarations hmem
  exact ⟨command, Array.mem_toList_iff.1 hcommand, hd⟩

theorem sound_setup : Sound setup.build.1 := by
  rw [Setup.build, build_eq_registerAll]
  exact sound_registerAll sound_empty _

/-! ## The handlers -/

theorem accepts_realTime : Clock.accepts Clock.realTime = true := by
  decide +kernel

/-- a clock takes a scale within the bounds, and the setting of any other fails and changes nothing -/
theorem setScale_apply (value : Double) : Stage.setScale clockCell value scope =
    if Clock.accepts value then .ok () ⟨{ scope.world with clock := ⟨value⟩ }, scope.records⟩
    else .error (.error [RefusedScale.message ⟨value⟩]) scope := by
  by_cases ha : Clock.accepts value
  · simp only [Stage.setScale, Clock.setScale, Action.bind_apply, Action.world_apply, ha, if_true, Action.change_apply]
    rfl
  · simp [Stage.setScale, Clock.setScale, ha]

theorem invoke_setTimescale (h : stage.setTimescale.Describes receivers command) (value : Double) :
    command.invoke ⟨[.float value]⟩ scope =
      if Clock.accepts value then
        .ok () ⟨{ scope.world with clock := ⟨value⟩ },
          scope.records ++ [⟨.info, "Time scale set to " ++ value.text ++ "."⟩]⟩
      else .error (.error [RefusedScale.message ⟨value⟩]) scope := by
  obtain ⟨ref, -, -, hinvoke⟩ := h.invoke_bound
  have hvalue : (Arguments.mk [.float value]).float 0 = .ok value := rfl
  have hclock : stage.clock ref = clockCell := rfl
  rw [hinvoke]
  by_cases ha : Clock.accepts value <;> simp [hvalue, hclock, setScale_apply, ha]

theorem invoke_resetTimescale (h : stage.resetTimescale.Describes receivers command) :
    command.invoke ⟨[]⟩ scope =
      .ok () ⟨{ scope.world with clock := .start }, scope.records ++ [⟨.info, "Time scale has been reset."⟩]⟩ := by
  obtain ⟨ref, -, -, hinvoke⟩ := h.invoke_bound
  have hclock : stage.clock ref = clockCell := rfl
  rw [hinvoke]
  simp [hclock, setScale_apply, accepts_realTime, Clock.start]

theorem invoke_reloadScene (h : stage.reloadScene.Describes receivers command) :
    command.invoke ⟨[]⟩ scope =
      .ok () ⟨{ scope.world with scenes := scope.world.scenes.reload scope.world.now },
        scope.records ++ [⟨.info, "Scene " ++ scope.world.scenes.current ++ " has been reloaded."⟩]⟩ := by
  obtain ⟨ref, -, -, hinvoke⟩ := h.invoke_bound
  have hscenes : stage.scenes ref = scenesCell := rfl
  rw [hinvoke]
  simp only [hscenes, Action.bind_apply, Action.world_apply, Action.change_apply, Action.emit_apply]
  rfl

theorem invoke_listScenes (h : stage.listScenes.Describes receivers command) :
    command.invoke ⟨[]⟩ scope =
      .ok () ⟨scope.world, scope.records ++
        (⟨.info, "Scenes in build settings (" ++ toString scope.world.scenes.names.length ++ "):"⟩ ::
          (Stage.sceneLines 0 scope.world.scenes.names).map (⟨.info, ·⟩))⟩ := by
  obtain ⟨ref, -, -, hinvoke⟩ := h.invoke_bound
  have hscenes : stage.scenes ref = scenesCell := rfl
  rw [hinvoke]
  simp only [hscenes, Action.bind_apply, Action.world_apply, Action.emit_apply]
  rw [Action.forM_emit_apply, List.append_assoc]
  rfl

theorem invoke_setScene (h : stage.setScene.Describes receivers command) (name : String) :
    command.invoke ⟨[.text name]⟩ scope =
      match scope.world.scenes.load? name scope.world.now with
      | some scenes => .ok () ⟨{ scope.world with scenes },
          scope.records ++ [⟨.info, "Scene '" ++ name ++ "' has been loaded."⟩]⟩
      | none => .ok () ⟨scope.world, scope.records ++
          [⟨.warn, "Scene '" ++ name ++ "' cannot be loaded. Check scene name or build settings."⟩]⟩ := by
  obtain ⟨ref, -, -, hinvoke⟩ := h.invoke_bound
  have hname : (Arguments.mk [.text name]).text 0 = .ok name := rfl
  have hscenes : stage.scenes ref = scenesCell := rfl
  have hload : (scenesCell.get scope.world).load? name (stage.now scope.world) =
      scope.world.scenes.load? name scope.world.now := rfl
  rw [hinvoke]
  simp only [Action.bind_apply, hname, Action.argument_ok_apply, hscenes, Action.world_apply, hload]
  cases scope.world.scenes.load? name scope.world.now with
  | some scenes =>
    simp only [Action.bind_apply, Action.change_apply, Action.emit_apply]
    rfl
  | none => rfl

/-! ## The commands -/

/-- the world that a stock command makes of another, or nothing if it fails on these values -/
def Stock.next? : Stock → List Value → World → Option World
  | setTimescale, [.float value], world => if Clock.accepts value then some { world with clock := ⟨value⟩ } else none
  | resetTimescale, [], world => some { world with clock := .start }
  | reloadScene, [], world => some { world with scenes := world.scenes.reload world.now }
  | listScenes, [], world => some world
  | setScene, [.text name], world =>
    match world.scenes.load? name world.now with
    | some scenes => some { world with scenes }
    | none => some world
  | _, _, _ => none

/-- a stock command makes the next world of the one it runs in, or it fails and leaves it as it was -/
theorem Stock.invoke_cases {stock : Stock} {words : List String} {values : List Value}
    (h : stock.declaration.Describes receivers command) (hread : Reads words stock.parameters values)
    (world : World) (records : List Record) :
    (∃ next added, stock.next? values world = some next ∧
        command.invoke ⟨values⟩ ⟨world, records⟩ = .ok () ⟨next, records ++ added⟩) ∨
      (stock.next? values world = none ∧
        ∃ failure, command.invoke ⟨values⟩ ⟨world, records⟩ = .error failure ⟨world, records⟩) := by
  cases stock with
  | setTimescale =>
    obtain ⟨word, value, -, rfl, hword⟩ := reads_singleton_iff.1 hread
    obtain ⟨number, -, rfl⟩ := Option.map_eq_some_iff.1 hword
    rw [invoke_setTimescale h, next?]
    by_cases ha : Clock.accepts number
    · rw [if_pos ha, if_pos ha]
      exact Or.inl ⟨_, _, rfl, rfl⟩
    · rw [if_neg ha, if_neg ha]
      exact Or.inr ⟨rfl, _, rfl⟩
  | resetTimescale =>
    obtain ⟨-, rfl⟩ := reads_nil_iff.1 hread
    rw [invoke_resetTimescale h]
    exact Or.inl ⟨_, _, rfl, rfl⟩
  | reloadScene =>
    obtain ⟨-, rfl⟩ := reads_nil_iff.1 hread
    rw [invoke_reloadScene h]
    exact Or.inl ⟨_, _, rfl, rfl⟩
  | listScenes =>
    obtain ⟨-, rfl⟩ := reads_nil_iff.1 hread
    rw [invoke_listScenes h]
    exact Or.inl ⟨_, _, rfl, rfl⟩
  | setScene =>
    obtain ⟨word, value, -, rfl, hword⟩ := reads_singleton_iff.1 hread
    obtain rfl : Value.text word = value := Option.some.inj hword
    rw [invoke_setScene h, next?]
    cases world.scenes.load? word world.now with
    | some scenes => exact Or.inl ⟨_, _, rfl, rfl⟩
    | none => exact Or.inl ⟨_, _, rfl, rfl⟩

end Demo

end HostConsole
