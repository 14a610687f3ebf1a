/-
Where commands come from. A catalog only grows at its end, so a command keeps its place through all later calls, and
every command of a catalog was put there by one accepted call, with the receivers of that time (`exists_origin`).
-/
import HostConsole.Proofs.Catalog.Invariant

namespace HostConsole.Catalog

variable {H : Host} {catalog : Catalog H} {receivers : Receivers H} {declaration : Declaration H}
  {command : Command H}

/-! ## One call -/

/-- an accepted call puts one command at the end, which is what was declared -/
theorem exists_push_of_accepted (h : (catalog.register receivers declaration).2 = none) :
    ∃ command, declaration.Describes receivers command ∧
      catalog.register receivers declaration = (catalog.push command, none) := by
  rcases register_cases catalog receivers declaration with ⟨-, hr⟩ | ⟨-, e, -, hr⟩ | ⟨-, -, command, hd, hr⟩
  · rw [hr] at h; cases h
  · rw [hr] at h; cases h
  · exact ⟨command, hd, hr⟩

/-- the command that comes to the end is what was declared -/
theorem describes_of_push (h : catalog.register receivers declaration = (catalog.push command, none)) :
    declaration.Describes receivers command := by
  obtain ⟨found, hd, hr⟩ := exists_push_of_accepted (by rw [h])
  have hpush : catalog.push command = catalog.push found := by rw [h] at hr; exact (Prod.mk.inj hr).1
  have hcommands := congrArg commands hpush
  rw [push, push, Array.push_eq_push] at hcommands
  rw [hcommands.1]
  exact hd

/-- a command keeps its place when another is registered -/
theorem getElem?_register {i : ℕ} (h : catalog.commands[i]? = some command) (receivers : Receivers H)
    (declaration : Declaration H) : (catalog.register receivers declaration).1.commands[i]? = some command := by
  rcases register_cases catalog receivers declaration with ⟨-, hr⟩ | ⟨-, e, -, hr⟩ | ⟨-, -, added, -, hr⟩
  · rw [hr]; exact h
  · rw [hr]; exact h
  · have hlt : i < catalog.commands.size := (Array.getElem?_eq_some_iff.1 h).1
    simp only [hr, push, Array.getElem?_push, if_neg (Nat.ne_of_lt hlt), h]

/-- a command of the catalog after a call was there before, or it came with the call -/
theorem mem_register (h : command ∈ (catalog.register receivers declaration).1.commands) :
    command ∈ catalog.commands ∨ catalog.register receivers declaration = (catalog.push command, none) := by
  rcases register_cases catalog receivers declaration with ⟨-, hr⟩ | ⟨-, e, -, hr⟩ | ⟨-, -, added, -, hr⟩
  · rw [hr] at h; exact Or.inl h
  · rw [hr] at h; exact Or.inl h
  · rw [hr] at h
    rcases Array.mem_push.1 h with h | rfl
    · exact Or.inl h
    · exact Or.inr hr

/-! ## Many calls -/

theorem registerAll_append (catalog : Catalog H) (earlier later : List (Call H)) :
    catalog.registerAll (earlier ++ later) = (catalog.registerAll earlier).registerAll later :=
  List.foldl_append

theorem registerAll_cons (catalog : Catalog H) (call : Call H) (calls : List (Call H)) :
    catalog.registerAll (call :: calls) = (catalog.register call.1 call.2).1.registerAll calls := rfl

theorem getElem?_registerAll {i : ℕ} (h : catalog.commands[i]? = some command) (calls : List (Call H)) :
    (catalog.registerAll calls).commands[i]? = some command := by
  induction calls generalizing catalog with
  | nil => exact h
  | cons call calls ih => exact ih (getElem?_register h call.1 call.2)

/-- **Every command came with one accepted call**: it was put at the end, as declared, with the receivers of then -/
theorem exists_origin {calls : List (Call H)} (h : command ∈ ((empty : Catalog H).registerAll calls).commands) :
    ∃ before call after, calls = before ++ call :: after ∧
      ((empty : Catalog H).registerAll before).register call.1 call.2 =
        (((empty : Catalog H).registerAll before).push command, none) := by
  induction calls using List.reverseRecOn with
  | nil => simp [registerAll, empty] at h
  | append_singleton calls call ih =>
    rw [registerAll_append, registerAll_cons] at h
    rcases mem_register h with h | h
    · obtain ⟨before, origin, after, rfl, hr⟩ := ih h
      exact ⟨before, origin, after ++ [call], by simp, hr⟩
    · exact ⟨calls, call, [], rfl, h⟩

end HostConsole.Catalog
