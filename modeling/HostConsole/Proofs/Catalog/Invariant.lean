/-
The invariant of the catalog: its index and its commands are in bijection, every name is a folded word of its own, and
every parameter is named by an identifier (`Sound`).

A catalog is reached by calls to register, each with the receivers of its time (`registerAll`); what building yields is
reached so too (`build_eq_registerAll`), and more calls may follow.

Result: `registerAll_sound`. Every catalog reached is sound; a refused declaration leaves it as it was, and an accepted
one adds a command at the end; and every command is found for ever, by all spellings of its name.
-/
import HostConsole.Demo.Host
import HostConsole.Proofs.Catalog.Registration

namespace HostConsole.Catalog

variable {H : Host}

/-! ## The invariant -/

/-- the index knows the place of every name and nothing else; names are folded words apart from the help word and from
each other; parameters are named by identifiers -/
structure Sound (catalog : Catalog H) : Prop where
  index_iff : ∀ name i, catalog.index[name]? = some i ↔ (catalog.commands[i]?).map Command.name = some name
  size_index : catalog.index.size = catalog.commands.size
  words : ∀ command ∈ catalog.commands, Text.IsWord command.name.toList
  folded : ∀ command ∈ catalog.commands, Text.foldName command.name = command.name
  not_reserved : ∀ command ∈ catalog.commands, command.name ≠ helpWord
  identifiers : ∀ command ∈ catalog.commands, ∀ parameter ∈ command.parameters,
    Parameter.IsIdentifier parameter.name

theorem sound_empty : Sound (empty : Catalog H) := by
  constructor <;> simp [empty]

/-- the names are pairwise distinct: two places of one name are what the index says of it -/
theorem nodup_names {catalog : Catalog H} (h : Sound catalog) :
    (catalog.commands.toList.map Command.name).Nodup := by
  rw [List.Nodup, List.pairwise_iff_getElem]
  intro i j hi hj hij hname
  simp only [List.length_map, Array.length_toList] at hi hj
  simp only [List.getElem_map, Array.getElem_toList] at hname
  have h1 := (h.index_iff catalog.commands[i].name i).2 (by simp [hi])
  have h2 := (h.index_iff catalog.commands[j].name j).2 (by simp [hj])
  rw [hname, h2, Option.some.injEq] at h1
  omega

/-- a new command comes to the end under a name that the index does not know -/
theorem push_index_iff {catalog : Catalog H} {command : Command H} (hnew : command.name ∉ catalog.index)
    (h : ∀ name i, catalog.index[name]? = some i ↔ (catalog.commands[i]?).map Command.name = some name)
    (name : String) (i : ℕ) : (catalog.push command).index[name]? = some i ↔
      ((catalog.push command).commands[i]?).map Command.name = some name := by
  simp only [push, Std.HashMap.getElem?_insert, beq_iff_eq, Array.getElem?_push]
  by_cases hi : i = catalog.commands.size
  · subst hi
    by_cases hname : command.name = name
    · simp [hname]
    · simp only [hname, if_false, if_true, Option.map_some, Option.some.injEq, iff_false, h]
      simp
  · by_cases hname : command.name = name
    · subst hname
      have hnone : catalog.index[command.name]? ≠ some i := fun he =>
        hnew (Std.HashMap.mem_iff_isSome_getElem?.2 (by rw [he]; rfl))
      rw [if_pos rfl, if_neg hi, ← h]
      simp [Ne.symm hi, hnone]
    · rw [if_neg hname, if_neg hi, h]

theorem push_sound {catalog : Catalog H} {receivers : Receivers H} {declaration : Declaration H} {command : Command H}
    (h : Sound catalog) (hnew : declaration.key ∉ catalog.index) (hv : declaration.Valid receivers)
    (hd : declaration.Describes receivers command) : Sound (catalog.push command) := by
  have hmem : ∀ {P : Command H → Prop}, (∀ other ∈ catalog.commands, P other) → P command →
      ∀ other ∈ (catalog.push command).commands, P other := by
    intro P hold hcommand other ho
    rcases Array.mem_push.1 ho with ho | rfl
    · exact hold other ho
    · exact hcommand
  have hnew' : command.name ∉ catalog.index := by rwa [hd.name]
  refine ⟨push_index_iff hnew' h.index_iff, ?_, hmem h.words ?_, hmem h.folded ?_, hmem h.not_reserved ?_,
    hmem h.identifiers ?_⟩
  · simp only [push, Std.HashMap.size_insert, if_neg hnew', Array.size_push, h.size_index]
  · rw [hd.name]; exact hv.name
  · rw [hd.name]; exact Text.foldName_foldName hv.name.2
  · rw [hd.name]; exact hv.not_reserved
  · intro parameter hp
    obtain ⟨text, -, ht⟩ := exists_mem_of_forall₂ hd.parameters.flip hp
    exact Parameter.isIdentifier_of_declaration ht

theorem register_sound {catalog : Catalog H} (h : Sound catalog) (receivers : Receivers H)
    (declaration : Declaration H) : Sound (catalog.register receivers declaration).1 := by
  rcases register_cases catalog receivers declaration with ⟨-, hr⟩ | ⟨-, e, -, hr⟩ | ⟨hnew, hv, command, hd, hr⟩
  · rw [hr]; exact h
  · rw [hr]; exact h
  · rw [hr]; exact push_sound h hnew hv hd

/-! ## Many calls -/

/-- one call to register: the receivers of its time, and what is declared -/
abbrev Call (H : Host) := Receivers H × Declaration H

/-- calls to register in order, whatever comes of each -/
def registerAll (catalog : Catalog H) (calls : List (Call H)) : Catalog H :=
  calls.foldl (fun catalog call => (catalog.register call.1 call.2).1) catalog

theorem sound_registerAll {catalog : Catalog H} (h : Sound catalog) (calls : List (Call H)) :
    Sound (catalog.registerAll calls) := by
  induction calls generalizing catalog with
  | nil => exact h
  | cons call calls ih => exact ih (register_sound h call.1 call.2)

theorem registerNoting_fst (receivers : Receivers H) (state : Catalog H × List Entry) (declaration : Declaration H) :
    (registerNoting receivers state declaration).1 = (state.1.register receivers declaration).1 := by
  unfold registerNoting
  split <;> rename_i h <;> rw [h]

/-- building is registering one declaration after the other, with the same receivers -/
theorem build_eq_registerAll (receivers : Receivers H) (declarations : List (Declaration H)) :
    (build receivers declarations).1 = empty.registerAll (declarations.map (receivers, ·)) := by
  have hfold : ∀ state : Catalog H × List Entry, (declarations.foldl (registerNoting receivers) state).1 =
      state.1.registerAll (declarations.map (receivers, ·)) := by
    induction declarations with
    | nil => exact fun _ => rfl
    | cons declaration declarations ih =>
      intro state
      rw [List.foldl_cons, ih, registerNoting_fst]
      rfl
  exact hfold (empty, [])

/-! ## Look-up -/

/-- in a sound catalog a name finds the command it folds to -/
theorem find?_eq_some_iff {catalog : Catalog H} (h : Sound catalog) {name : String} {command : Command H} :
    catalog.find? name = some command ↔ command ∈ catalog.commands ∧ command.name = Text.foldName name := by
  rw [find?, Option.bind_eq_some_iff]
  constructor
  · rintro ⟨i, hi, hc⟩
    have hname := (h.index_iff _ i).1 hi
    rw [hc] at hname
    exact ⟨Array.mem_of_getElem? hc, Option.some.inj hname⟩
  · rintro ⟨hm, hname⟩
    obtain ⟨i, hi⟩ := Array.getElem?_of_mem hm
    exact ⟨i, (h.index_iff _ i).2 (by rw [hi, Option.map_some, hname]), hi⟩

/-- a command that is found stays found when another is registered -/
theorem find?_register {catalog : Catalog H} {name : String} {command : Command H}
    (h : catalog.find? name = some command) (receivers : Receivers H) (declaration : Declaration H) :
    (catalog.register receivers declaration).1.find? name = some command := by
  rcases register_cases catalog receivers declaration with ⟨-, hr⟩ | ⟨-, e, -, hr⟩ | ⟨hnew, -, added, hd, hr⟩
  · rw [hr]; exact h
  · rw [hr]; exact h
  · rw [hr]
    obtain ⟨i, hi, hc⟩ := Option.bind_eq_some_iff.1 h
    have hne : added.name ≠ Text.foldName name := by
      intro he
      rw [hd.name] at he
      rw [he, Std.HashMap.mem_iff_isSome_getElem?, hi] at hnew
      exact hnew rfl
    have hlt : i < catalog.commands.size := (Array.getElem?_eq_some_iff.1 hc).1
    have hindex : (catalog.push added).index[Text.foldName name]? = some i := by
      simp only [push, Std.HashMap.getElem?_insert, beq_iff_eq, if_neg hne, hi]
    have hcommand : (catalog.push added).commands[i]? = some command := by
      simp only [push, Array.getElem?_push, if_neg (Nat.ne_of_lt hlt), hc]
    rw [find?, hindex]
    exact hcommand

theorem find?_registerAll {catalog : Catalog H} {name : String} {command : Command H}
    (h : catalog.find? name = some command) (calls : List (Call H)) :
    (catalog.registerAll calls).find? name = some command := by
  induction calls generalizing catalog with
  | nil => exact h
  | cons call calls ih => exact ih (find?_register h call.1 call.2)

/-! ## Every catalog reached -/

/-- **The catalog is sound in every state, and registering is atomic.** A call is refused and leaves commands and index
as they were, exactly if the name is taken or the declaration is not valid; otherwise it puts one command at the end.
After all later calls a command is found by each spelling of its name. -/
theorem registerAll_sound (calls : List (Call H)) :
    let catalog := (empty : Catalog H).registerAll calls
    Sound catalog ∧ (catalog.commands.toList.map Command.name).Nodup ∧
      (∀ receivers declarations, ∃ built, (build receivers declarations).1 = (empty : Catalog H).registerAll built) ∧
      (∀ receivers declaration,
        ((declaration.key ∈ catalog.index ∨ ¬ declaration.Valid receivers) ∧
            ∃ error, catalog.register receivers declaration = (catalog, some error)) ∨
          (declaration.key ∉ catalog.index ∧ declaration.Valid receivers ∧
            ∃ command, declaration.Describes receivers command ∧
              (catalog.register receivers declaration).2 = none ∧
              (catalog.register receivers declaration).1.commands = catalog.commands.push command)) ∧
      ∀ command ∈ catalog.commands, ∀ name, Text.foldName name = command.name →
        ∀ later, (catalog.registerAll later).find? name = some command := by
  intro catalog
  have hs : Sound catalog := sound_registerAll sound_empty calls
  refine ⟨hs, nodup_names hs, fun receivers declarations => ⟨_, build_eq_registerAll receivers declarations⟩, ?_, ?_⟩
  · intro receivers declaration
    rcases register_cases catalog receivers declaration with ⟨hm, hr⟩ | ⟨-, e, hf, hr⟩ | ⟨hm, hv, command, hd, hr⟩
    · exact Or.inl ⟨Or.inl hm, _, hr⟩
    · exact Or.inl ⟨Or.inr (not_valid_of_firstFault hf), e, hr⟩
    · rw [hr]
      exact Or.inr ⟨hm, hv, command, hd, rfl, rfl⟩
  · intro command hm name hname later
    exact find?_registerAll ((find?_eq_some_iff hs).2 ⟨hm, hname.symm⟩) later

/-- one call: the stock command that sets the time scale, with the clock in place -/
def clockCall : Call Demo.host :=
  (Demo.setup.receivers, Demo.stage.setTimescale)

theorem valid_clockCall : clockCall.2.Valid clockCall.1 := by
  refine ⟨isWord_iff.2 (by decide +kernel), by decide +kernel, ?_, ?_⟩
  · intro text ht
    rw [List.mem_singleton.1 ht]
    exact ⟨⟨"value", .float⟩, by decide +kernel⟩
  · rintro kind run h
    cases h
    exact ⟨⟨Demo.Kind.clock, ()⟩, by simp [clockCall, Demo.setup, Setup.receiver, Setup.commands, Setup.empty,
      Receivers.insert, Receivers.empty], rfl⟩

theorem registerAll_sound_clockCall : ∃ command ∈ ((empty : Catalog Demo.host).registerAll [clockCall]).commands,
    Text.foldName " Set_TimeScale " = command.name ∧
      ∀ later, (((empty : Catalog Demo.host).registerAll [clockCall]).registerAll later).find? " Set_TimeScale " =
        some command := by
  rcases register_cases empty clockCall.1 clockCall.2 with ⟨hm, -⟩ | ⟨-, e, hf, -⟩ | ⟨-, -, command, hd, hr⟩
  · simp [empty] at hm
  · exact absurd valid_clockCall (not_valid_of_firstFault hf)
  · have hname : Text.foldName " Set_TimeScale " = command.name := by
      rw [hd.name]
      decide +kernel
    have hmem : command ∈ ((empty : Catalog Demo.host).registerAll [clockCall]).commands := by
      simp [registerAll, hr, push]
    exact ⟨command, hmem, hname, (registerAll_sound [clockCall]).2.2.2.2 command hmem _ hname⟩

end HostConsole.Catalog
