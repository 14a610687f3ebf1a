/-
Which instance a bound command runs on.

Result: `bound_to_latest`.
- A command declared as bound to a kind runs, from its registration on, the declared handler on the instance of this
  kind that was inserted last before its registration. Whatever is inserted later, it is the same command that is found,
  and the refusal of receivers of another kind is never reached.
- Every run of a handler is of a command registered by an earlier step, in the catalog as it is since it was last built.
- A setup collects receivers and declarations in any order: what is built depends only on the declarations in their
  order and on the last receiver of each kind.
-/
import HostConsole.Proofs.Catalog.Wiring
import HostConsole.Proofs.Dispatch.Arguments

namespace HostConsole

variable {H : Host}

/-! ## Bound commands -/

/-- the command of a bound declaration keeps the instance found under the kind, and runs the handler on it -/
theorem Declaration.Describes.invoke_bound {receivers : Receivers H} {command : Command H} {kind : H.Kind}
    {name description : String} {parameters : List String} {handler : H.Instance kind → Handler H}
    (h : (Declaration.bound kind name description parameters handler).Describes receivers command) :
    ∃ ref, receivers.get? kind = some ref ∧ command.target = .bound ⟨kind, ref⟩ (Declaration.onKind kind handler) ∧
      command.invoke = handler ref := by
  have htarget := h.target
  generalize ht : command.target = target at htarget
  cases htarget with
  | bound _ _ receiver found =>
    rw [Receivers.find?_eq_map_get?, Option.map_eq_some_iff] at found
    obtain ⟨ref, hget, rfl⟩ := found
    refine ⟨ref, hget, rfl, ?_⟩
    simp only [Command.invoke, ht, Declaration.onKind, Receiver.as?_self]

namespace Catalog

variable {P C : Type} [DecidableEq P] [DecidableEq C] {op : Step H P C} {slot : C} {pool : P} {command : Command H}

/-- a command registered as bound to a kind runs on the instance of the kind inserted last before -/
theorem Registers.latest {steps : List (Step H P C)} {kind : H.Kind} {name description : String}
    {parameters : List String} {handler : H.Instance kind → Handler H}
    (h : Registers (Wiring.run steps) op slot pool (.bound kind name description parameters handler) command) :
    ∃ ref, Receivers.latest kind (inserted pool steps) = some ref ∧
      command.target = .bound ⟨kind, ref⟩ (Declaration.onKind kind handler) ∧ command.invoke = handler ref := by
  obtain ⟨ref, hget, htarget, hinvoke⟩ := h.describes.invoke_bound
  rw [receivers_run, Receivers.get?_ofInserted] at hget
  exact ⟨ref, hget, htarget, hinvoke⟩

/-! ## The order of a setup -/

/-- one thing collected by a setup -/
inductive Item (H : Host) where
  | receiver (supplied : Receiver H)
  | command (declaration : Declaration H)
  | commands (declarations : List (Declaration H))

/-- the receiver supplied -/
def Item.receiver? : Item H → Option (Receiver H)
  | .receiver supplied => some supplied
  | _ => none

/-- the declarations made -/
def Item.declared : Item H → List (Declaration H)
  | .receiver _ => []
  | .command declaration => [declaration]
  | .commands declarations => declarations

/-- collect one thing more -/
def Item.collect (setup : Setup H) : Item H → Setup H
  | .receiver supplied => setup.receiver supplied
  | .command declaration => setup.command declaration
  | .commands declarations => setup.commands declarations

/-- the setup of these things, collected in order -/
def setupOf (items : List (Item H)) : Setup H :=
  items.foldl Item.collect .empty

/-- a setup holds the receivers supplied and the declarations made, each in their order -/
theorem setupOf_eq (items : List (Item H)) :
    setupOf items = ⟨.ofInserted (items.filterMap Item.receiver?), items.flatMap Item.declared⟩ := by
  induction items using List.reverseRecOn with
  | nil => rfl
  | append_singleton items item ih =>
    have hsnoc : setupOf (items ++ [item]) = item.collect (setupOf items) := by
      rw [setupOf, List.foldl_append]
      rfl
    rw [hsnoc, ih, List.filterMap_append, List.flatMap_append]
    cases item with
    | receiver supplied =>
      simp [Item.collect, Item.receiver?, Item.declared, Setup.receiver, Receivers.ofInserted, List.foldl_append]
    | command declaration => simp [Item.collect, Item.receiver?, Item.declared, Setup.command, List.filterMap_cons]
    | commands declarations => simp [Item.collect, Item.receiver?, Item.declared, Setup.commands, List.filterMap_cons]

/-- registering asks a collection of receivers only for the instance of a kind -/
theorem register_congr {receivers others : Receivers H} (h : ∀ kind, receivers.get? kind = others.get? kind)
    (catalog : Catalog H) (declaration : Declaration H) :
    catalog.register receivers declaration = catalog.register others declaration := by
  have htarget : ∀ name target, checkTarget receivers name target = checkTarget others name target := by
    intro name target
    cases target with
    | free run => rfl
    | bound kind run => simp only [checkTarget, Receivers.find?_eq_map_get?, h]
  simp only [register, resolve, htarget]

theorem build_congr {receivers others : Receivers H} (h : ∀ kind, receivers.get? kind = others.get? kind)
    (declarations : List (Declaration H)) : build receivers declarations = build others declarations := by
  have hnoting : registerNoting receivers = registerNoting others := by
    funext state declaration
    simp only [registerNoting, register_congr h]
  rw [build, build, hnoting]

/-- a setup of the same declarations and the same last receivers builds the same -/
theorem build_setupOf {items others : List (Item H)}
    (hd : items.flatMap Item.declared = others.flatMap Item.declared)
    (hr : ∀ kind, Receivers.latest kind (items.filterMap Item.receiver?) =
      Receivers.latest kind (others.filterMap Item.receiver?)) :
    (setupOf items).build = (setupOf others).build := by
  rw [setupOf_eq, setupOf_eq, Setup.build, Setup.build, hd]
  exact build_congr (fun kind => by rw [Receivers.get?_ofInserted, Receivers.get?_ofInserted, hr]) _

/-! ## Binding -/

/-- **A bound command runs on the instance inserted last before its registration**: it is found unchanged until its
catalog is built anew, every run is of a command registered so, and a setup may come in any order. -/
theorem bound_to_latest :
    (∀ (steps : List (Step H P C)) (op : Step H P C) (later : List (Step H P C)) (slot : C) (pool : P) (kind : H.Kind)
        (name description : String) (parameters : List String) (handler : H.Instance kind → Handler H)
        (command : Command H),
      Registers (Wiring.run steps) op slot pool (.bound kind name description parameters handler) command →
      (∀ s ∈ later, ¬ s.Builds slot) →
      ∃ ref, Receivers.latest kind (inserted pool steps) = some ref ∧
        command.target = .bound ⟨kind, ref⟩ (Declaration.onKind kind handler) ∧ command.invoke = handler ref ∧
        ∀ spelled, Text.foldName spelled = command.name →
          ((Wiring.run (steps ++ op :: later)).catalog slot).find? spelled = some command) ∧
    (∀ (steps : List (Step H P C)) (slot : C) (captured : LevelFilter) (text : String) (world : H.World),
      ∀ run ∈ (((Wiring.run steps).catalog slot).traced.execute captured text (world, [])).world.2,
        ∃ before op after pool declaration, steps = before ++ op :: after ∧ (∀ s ∈ after, ¬ s.Builds slot) ∧
          Registers (Wiring.run before) op slot pool declaration run.command ∧
          ∀ kind name description parameters handler, declaration = .bound kind name description parameters handler →
            ∃ ref, Receivers.latest kind (inserted pool before) = some ref ∧ run.command.invoke = handler ref) ∧
    ∀ items others : List (Item H), items.flatMap Item.declared = others.flatMap Item.declared →
      (∀ kind, Receivers.latest kind (items.filterMap Item.receiver?) =
        Receivers.latest kind (others.filterMap Item.receiver?)) →
      (setupOf items).build = (setupOf others).build := by
  refine ⟨?_, ?_, fun items others hd hr => build_setupOf hd hr⟩
  · intro steps op later slot pool kind name description parameters handler command hregisters hkept
    obtain ⟨ref, hlatest, htarget, hinvoke⟩ := hregisters.latest
    refine ⟨ref, hlatest, htarget, hinvoke, fun spelled hspelled => ?_⟩
    have hmem := hregisters.mem
    rw [← run_snoc] at hmem
    have hfound := (find?_eq_some_iff (sound_run (steps ++ [op]) slot)).2 ⟨hmem, hspelled.symm⟩
    rw [List.append_cons]
    exact find?_run hfound hkept
  · intro steps slot captured text world run hrun
    obtain ⟨words, hcalled, -⟩ := (mem_traced_iff (sound_run steps slot)).1 hrun
    obtain ⟨before, op, after, pool, declaration, hsplit, hkept, hregisters⟩ := exists_registers hcalled.mem
    refine ⟨before, op, after, pool, declaration, hsplit, hkept, hregisters, ?_⟩
    rintro kind name description parameters handler rfl
    obtain ⟨ref, hlatest, -, hinvoke⟩ := hregisters.latest
    exact ⟨ref, hlatest, hinvoke⟩

/-- a host with numbers as instances, of two kinds; its world lists the instances that commands ran on -/
def lampHost : Host where
  World := List Nat
  Kind := Bool
  Instance := fun _ => Nat
  kindName := fun kind => if kind then "game::Lamp" else "game::Door"

/-- note the instance -/
def noteLamp (ref : Nat) : Handler lampHost :=
  fun _ => Action.change fun (world : List Nat) => world ++ [ref]

/-- a command bound to lamps -/
def lampDeclaration : Declaration lampHost :=
  .bound true "Lamp" "" [] noteLamp

/-- two lamps and a door are inserted -/
def lampSteps : List (Step lampHost Unit Unit) :=
  [.insert () ⟨true, (1 : Nat)⟩, .insert () ⟨false, (7 : Nat)⟩, .insert () ⟨true, (2 : Nat)⟩]

/-- then the command is registered, and another lamp is inserted -/
def lampWiring : List (Step lampHost Unit Unit) :=
  lampSteps ++ .register () () lampDeclaration :: [.insert () ⟨true, (3 : Nat)⟩]

theorem exists_registers_lampDeclaration :
    ∃ command, Registers (Wiring.run lampSteps) (.register () () lampDeclaration) () () lampDeclaration command := by
  have hvalid : lampDeclaration.Valid ((Wiring.run lampSteps).receivers ()) := by
    refine ⟨by decide +kernel, by decide +kernel, by simp [lampDeclaration, Declaration.bound], ?_⟩
    rintro kind run h
    cases h
    exact ⟨⟨true, (2 : Nat)⟩, by simp [Wiring.run, lampSteps, Wiring.step, Wiring.start, Receivers.insert], rfl⟩
  have hnew : lampDeclaration.key ∉ ((Wiring.run lampSteps).catalog ()).index := by
    simp [Wiring.run, lampSteps, Wiring.step, Wiring.start, empty]
  obtain ⟨command, -, haccepted⟩ := exists_push_of_accepted (accepted_of_valid hnew hvalid)
  exact ⟨command, .alone haccepted⟩

theorem bound_to_latest_lamp :
    ∃ command, Registers (Wiring.run lampSteps) (.register () () lampDeclaration) () () lampDeclaration command ∧
      command.invoke = noteLamp 2 ∧
      ((Wiring.run lampWiring).catalog ()).find? " LAMP" = some command ∧
      (∃ run ∈ (((Wiring.run lampWiring).catalog ()).traced.execute .off "lamp" (([] : List Nat), [])).world.2,
        run.command = command ∧ ∃ before op after pool declaration, lampWiring = before ++ op :: after ∧
          Registers (Wiring.run before) op () pool declaration run.command) ∧
      (setupOf [.command lampDeclaration, .receiver ⟨true, (1 : Nat)⟩, .receiver ⟨true, (2 : Nat)⟩]).build =
        (setupOf [.receiver ⟨true, (2 : Nat)⟩, .commands [lampDeclaration]]).build := by
  obtain ⟨hbound, horigin, hsetup⟩ := bound_to_latest (H := lampHost) (P := Unit) (C := Unit)
  obtain ⟨command, hregisters⟩ := exists_registers_lampDeclaration
  have hd := hregisters.describes
  obtain ⟨ref, hlatest, -, hinvoke, hfound⟩ := hbound _ _ [.insert () ⟨true, (3 : Nat)⟩] _ _ _ _ _ _ _ _ hregisters
    (by simp [Step.Builds])
  obtain rfl : (2 : Nat) = ref := Option.some.inj hlatest
  have hfound := hfound " LAMP" (by rw [hd.name]; decide +kernel)
  have hcalled : Calls ((Wiring.run lampWiring).catalog ()) "lamp" command [] :=
    ⟨((find?_eq_some_iff (sound_run _ _)).1 hfound).1, "lamp", by decide +kernel, by rw [hd.name]; decide +kernel⟩
  have hread : Reads [] command.parameters [] := by
    rw [List.forall₂_nil_left_iff.1 hd.parameters]
    exact ⟨rfl, rfl⟩
  have hrun : (⟨command, []⟩ : Run lampHost) ∈
      (((Wiring.run lampWiring).catalog ()).traced.execute .off "lamp" (([] : List Nat), [])).world.2 :=
    (mem_traced_iff (sound_run lampWiring ())).2 ⟨[], hcalled, hread⟩
  refine ⟨command, hregisters, hinvoke, hfound, ⟨_, hrun, rfl, ?_⟩, ?_⟩
  · obtain ⟨before, op, after, pool, declaration, hsplit, -, h, -⟩ := horigin _ () _ _ _ _ hrun
    exact ⟨before, op, after, pool, declaration, hsplit, h⟩
  · refine hsetup _ _ rfl fun kind => ?_
    cases kind <;> rfl

end Catalog

end HostConsole
