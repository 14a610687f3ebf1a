/-
How a host wires its catalogs. Step by step and in any order, instances go into collections of receivers, declarations
are registered in catalogs, each with one of the collections, and catalogs are built anew (`Step`). A step registers a
declaration when it puts its command at the end of a catalog (`Registers`).

Results: a command stays until its catalog is built anew (`find?_run`), every command was registered by one step
(`exists_registers`), and a collection holds what was inserted into it (`receivers_run`).
-/
import HostConsole.Proofs.Catalog.Origin
import HostConsole.Proofs.Host.Receivers

namespace HostConsole.Catalog

variable {H : Host}

/-! ## Wiring -/

/-- one step of wiring: an instance goes into a collection of receivers, or a declaration is registered in a catalog
with a collection, or a catalog is built anew with a collection -/
inductive Step (H : Host) (P C : Type) where
  | insert (pool : P) (receiver : Receiver H)
  | register (slot : C) (pool : P) (declaration : Declaration H)
  | build (slot : C) (pool : P) (declarations : List (Declaration H))

/-- the collections of receivers and the catalogs of a host -/
structure Wiring (H : Host) (P C : Type) where
  receivers : P → Receivers H
  catalog : C → Catalog H

variable {P C : Type} [DecidableEq P] [DecidableEq C] {wiring : Wiring H P C} {op : Step H P C} {slot : C} {pool : P}
  {declaration : Declaration H} {command : Command H}

/-- the step builds the catalog anew -/
def Step.Builds (slot : C) : Step H P C → Prop
  | .build other _ _ => other = slot
  | _ => False

/-- nothing inserted and nothing registered -/
def Wiring.start : Wiring H P C :=
  ⟨fun _ => .empty, fun _ => .empty⟩

/-- one step -/
def Wiring.step (wiring : Wiring H P C) : Step H P C → Wiring H P C
  | .insert pool receiver =>
    { wiring with receivers := Function.update wiring.receivers pool ((wiring.receivers pool).insert receiver) }
  | .register slot pool declaration =>
    { wiring with
      catalog := Function.update wiring.catalog slot
        ((wiring.catalog slot).register (wiring.receivers pool) declaration).1 }
  | .build slot pool declarations =>
    { wiring with catalog := Function.update wiring.catalog slot (build (wiring.receivers pool) declarations).1 }

/-- steps in order, from the start -/
def Wiring.run (steps : List (Step H P C)) : Wiring H P C :=
  steps.foldl Wiring.step .start

/-- what was inserted into a collection, in order -/
def inserted (pool : P) (steps : List (Step H P C)) : List (Receiver H) :=
  steps.filterMap fun
    | .insert other receiver => if other = pool then some receiver else none
    | _ => none

/-- the step registers the declaration in a catalog, with a collection of receivers, and this is its command -/
inductive Registers (wiring : Wiring H P C) : Step H P C → C → P → Declaration H → Command H → Prop
  | alone {slot : C} {pool : P} {declaration : Declaration H} {command : Command H}
      (accepted : (wiring.catalog slot).register (wiring.receivers pool) declaration =
        ((wiring.catalog slot).push command, none)) :
      Registers wiring (.register slot pool declaration) slot pool declaration command
  | built {slot : C} {pool : P} {before after : List (Declaration H)} {declaration : Declaration H}
      {command : Command H}
      (accepted : (build (wiring.receivers pool) before).1.register (wiring.receivers pool) declaration =
        ((build (wiring.receivers pool) before).1.push command, none)) :
      Registers wiring (.build slot pool (before ++ declaration :: after)) slot pool declaration command

theorem run_snoc (steps : List (Step H P C)) (step : Step H P C) :
    Wiring.run (steps ++ [step]) = (Wiring.run steps).step step := by
  simp [Wiring.run, List.foldl_append]

/-! ## What a step does -/

/-- a collection of receivers is what was inserted into it -/
theorem receivers_run (steps : List (Step H P C)) (pool : P) :
    (Wiring.run steps).receivers pool = .ofInserted (inserted pool steps) := by
  induction steps using List.reverseRecOn with
  | nil => rfl
  | append_singleton steps step ih =>
    rw [run_snoc]
    cases step with
    | insert other receiver =>
      by_cases h : other = pool
      · subst h
        simp [Wiring.step, inserted, Receivers.ofInserted, List.foldl_append, ih]
      · simp [Wiring.step, inserted, h, Ne.symm h, ih]
    | register other source declaration => simp [Wiring.step, inserted, ih]
    | build other source declarations => simp [Wiring.step, inserted, ih]

theorem build_snoc (receivers : Receivers H) (before after : List (Declaration H)) (declaration : Declaration H) :
    (build receivers (before ++ declaration :: after)).1 =
      ((build receivers before).1.register receivers declaration).1.registerAll (after.map (receivers, ·)) := by
  rw [build_eq_registerAll, build_eq_registerAll, List.map_append, List.map_cons, registerAll_append, registerAll_cons]

/-- all catalogs are reached by registering -/
theorem sound_run (steps : List (Step H P C)) (slot : C) : Sound ((Wiring.run steps).catalog slot) := by
  induction steps using List.reverseRecOn with
  | nil => exact sound_empty
  | append_singleton steps step ih =>
    rw [run_snoc]
    cases step with
    | insert other receiver => exact ih
    | register other pool declaration =>
      by_cases h : slot = other
      · subst h
        simpa [Wiring.step] using register_sound ih _ declaration
      · simpa [Wiring.step, h] using ih
    | build other pool declarations =>
      by_cases h : slot = other
      · subst h
        simpa [Wiring.step, build_eq_registerAll] using sound_registerAll sound_empty _
      · simpa [Wiring.step, h] using ih

omit [DecidableEq P] [DecidableEq C] in
theorem Registers.describes (h : Registers wiring op slot pool declaration command) :
    declaration.Describes (wiring.receivers pool) command := by
  cases h with
  | alone accepted => exact describes_of_push accepted
  | built accepted => exact describes_of_push accepted

/-- the command is there after the step -/
theorem Registers.mem (h : Registers wiring op slot pool declaration command) :
    command ∈ ((wiring.step op).catalog slot).commands := by
  cases h with
  | alone accepted => simp [Wiring.step, accepted, push]
  | @built slot pool before after declaration command accepted =>
    have hlast : ((build (wiring.receivers pool) before).1.push command).commands[
        (build (wiring.receivers pool) before).1.size]? = some command := by
      simp [push, size]
    simp only [Wiring.step, Function.update_self, build_snoc, accepted]
    exact Array.mem_of_getElem? (getElem?_registerAll hlast _)

/-- a command that is there after a step was there before, in a catalog not built anew, or the step registers it -/
theorem mem_step (h : command ∈ ((wiring.step op).catalog slot).commands) :
    (¬ op.Builds slot ∧ command ∈ (wiring.catalog slot).commands) ∨
      ∃ pool declaration, Registers wiring op slot pool declaration command := by
  cases op with
  | insert other receiver => exact Or.inl ⟨id, h⟩
  | register other pool declaration =>
    by_cases hs : slot = other
    · subst hs
      simp only [Wiring.step, Function.update_self] at h
      rcases mem_register h with h | h
      · exact Or.inl ⟨id, h⟩
      · exact Or.inr ⟨pool, declaration, .alone h⟩
    · simp only [Wiring.step, Function.update_of_ne hs] at h
      exact Or.inl ⟨id, h⟩
  | build other pool declarations =>
    by_cases hs : slot = other
    · subst hs
      simp only [Wiring.step, Function.update_self, build_eq_registerAll] at h
      obtain ⟨before, call, after, hsplit, hr⟩ := exists_origin h
      obtain ⟨earlier, rest, rfl, rfl, hrest⟩ := List.map_eq_append_iff.1 hsplit
      obtain ⟨declaration, later, rfl, rfl, rfl⟩ := List.map_eq_cons_iff.1 hrest
      refine Or.inr ⟨pool, declaration, .built ?_⟩
      rw [build_eq_registerAll]
      exact hr
    · simp only [Wiring.step, Function.update_of_ne hs] at h
      exact Or.inl ⟨fun hb => hs hb.symm, h⟩

/-- a command that is found stays found unless the catalog is built anew -/
theorem find?_step {name : String} (h : (wiring.catalog slot).find? name = some command) (hb : ¬ op.Builds slot) :
    ((wiring.step op).catalog slot).find? name = some command := by
  cases op with
  | insert other receiver => exact h
  | register other pool declaration =>
    by_cases hs : slot = other
    · subst hs
      simpa [Wiring.step] using find?_register h _ declaration
    · simpa [Wiring.step, hs] using h
  | build other pool declarations =>
    have hs : slot ≠ other := fun hs => hb hs.symm
    simpa [Wiring.step, hs] using h

/-! ## Runs of steps -/

theorem find?_run {name : String} {steps later : List (Step H P C)}
    (h : ((Wiring.run steps).catalog slot).find? name = some command) (hkept : ∀ step ∈ later, ¬ step.Builds slot) :
    ((Wiring.run (steps ++ later)).catalog slot).find? name = some command := by
  induction later using List.reverseRecOn with
  | nil => rwa [List.append_nil]
  | append_singleton later step ih =>
    rw [← List.append_assoc, run_snoc]
    exact find?_step (ih fun s hs => hkept s (List.mem_append_left _ hs)) (hkept step (by simp))

/-- every command was registered by one step, and its catalog was not built anew since -/
theorem exists_registers {steps : List (Step H P C)} (h : command ∈ ((Wiring.run steps).catalog slot).commands) :
    ∃ before step after pool declaration, steps = before ++ step :: after ∧ (∀ s ∈ after, ¬ s.Builds slot) ∧
      Registers (Wiring.run before) step slot pool declaration command := by
  induction steps using List.reverseRecOn with
  | nil => simp [Wiring.run, Wiring.start, empty] at h
  | append_singleton steps step ih =>
    rw [run_snoc] at h
    rcases mem_step h with ⟨hb, h⟩ | ⟨pool, declaration, h⟩
    · obtain ⟨before, origin, after, pool, declaration, rfl, hkept, hr⟩ := ih h
      refine ⟨before, origin, after ++ [step], pool, declaration, by simp, fun s hs => ?_, hr⟩
      rcases List.mem_append.1 hs with hs | hs
      · exact hkept s hs
      · rwa [List.mem_singleton.1 hs]
    · exact ⟨steps, step, [], pool, declaration, rfl, by simp, h⟩

end HostConsole.Catalog
