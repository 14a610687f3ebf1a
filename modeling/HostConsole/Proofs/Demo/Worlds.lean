/-
The demonstration host stays valid whatever is typed. A line that calls a stock command with words that read makes the
next world of that command, and every other line leaves the world as it was, as does a command that fails
(`execute_cases`).

Result: `stays_valid`. After any lines, typed at any moments, the scale is a number from zero to one hundred and the
active scene is one of the listed ones (`Valid`). Only the two commands for it change the scale, and only the loading of
a listed scene changes which one is active (`Follows`).
-/
import HostConsole.Proofs.Demo.Commands

namespace HostConsole.Demo

open Catalog

variable {text : String} {rest names : List String} {values : List Value} {world next : World} {stock : Stock}

/-! ## Scenes -/

namespace Scenes

variable {scenes loaded : Scenes} {name : String} {now : Double}

/-- loading makes a listed scene the active one -/
theorem current_of_load? (h : scenes.load? name now = some loaded) :
    name ∈ scenes.names ∧ loaded.names = scenes.names ∧ loaded.current = name := by
  obtain ⟨i, hi, rfl⟩ := Option.map_eq_some_iff.1 h
  obtain ⟨hlt, hat, -⟩ := List.idxOf?_eq_some_iff.1 hi
  refine ⟨?_, rfl, ?_⟩
  · rw [← hat]
    exact List.getElem_mem hlt
  · simp [current, hlt, hat]

/-- only a name that is not listed cannot be loaded -/
theorem load?_eq_none_iff : scenes.load? name now = none ↔ name ∉ scenes.names := by
  simp [load?]

end Scenes

/-! ## One line -/

/-- the line calls a stock command with these words, which read as these values -/
structure Stock.Called (stock : Stock) (text : String) (rest : List String) (values : List Value) : Prop where
  words : ∃ first, Text.words text = first :: rest ∧ Text.lower first = stock.name
  reads : Reads rest stock.parameters values

/-- only the two commands for the scale touch the clock -/
theorem Stock.next?_clock (h : stock.next? values world = some next) (hset : stock ≠ setTimescale)
    (hreset : stock ≠ resetTimescale) : next.clock = world.clock := by
  unfold next? at h
  split at h
  · exact absurd rfl hset
  · exact absurd rfl hreset
  · cases h
    rfl
  · cases h
    rfl
  · split at h
    · cases h
      rfl
    · cases h
      rfl
  · cases h

/-- only the loading of a scene touches which one is active -/
theorem Stock.next?_current (h : stock.next? values world = some next) (hset : stock ≠ setScene) :
    next.scenes.current = world.scenes.current := by
  unfold next? at h
  split at h
  · split_ifs at h
    cases h
    rfl
  · cases h
    rfl
  · cases h
    rfl
  · cases h
    rfl
  · exact absurd rfl hset
  · cases h

/-- the scale becomes the number typed -/
theorem Stock.Called.scale (h : setTimescale.Called text rest values)
    (hnext : setTimescale.next? values world = some next) :
    ∃ first word value, Text.words text = [first, word] ∧ ValueType.float.read? word = some (.float value) ∧
      next.clock.scale = value := by
  obtain ⟨⟨first, hwords, -⟩, hreads⟩ := h
  obtain ⟨word, value, rfl, rfl, hread⟩ := reads_singleton_iff.1 hreads
  obtain ⟨number, -, rfl⟩ := Option.map_eq_some_iff.1 hread
  simp only [next?, Option.ite_none_right_eq_some, Option.some.injEq] at hnext
  obtain ⟨-, rfl⟩ := hnext
  exact ⟨first, word, number, hwords, hread, rfl⟩

/-- the active scene becomes the one typed if it is listed, and else all scenes stay as they were -/
theorem Stock.Called.scene (h : setScene.Called text rest values)
    (hnext : setScene.next? values world = some next) :
    ∃ first name, Text.words text = [first, name] ∧ (name ∈ world.scenes.names → next.scenes.current = name) ∧
      (name ∉ world.scenes.names → next.scenes = world.scenes) := by
  obtain ⟨⟨first, hwords, -⟩, hreads⟩ := h
  obtain ⟨name, value, rfl, rfl, hread⟩ := reads_singleton_iff.1 hreads
  obtain rfl : Value.text name = value := Option.some.inj hread
  refine ⟨first, name, hwords, ?_⟩
  simp only [next?] at hnext
  split at hnext
  · rename_i scenes hload
    cases hnext
    obtain ⟨hmem, -, hcurrent⟩ := Scenes.current_of_load? hload
    exact ⟨fun _ => hcurrent, fun hnot => absurd hmem hnot⟩
  · rename_i hload
    cases hnext
    exact ⟨fun hmem => absurd hmem (Scenes.load?_eq_none_iff.1 hload), fun _ => rfl⟩

/-- a line makes the next world of the stock command it calls, or it invokes nothing and leaves the world as it was -/
theorem execute_cases (captured : LevelFilter) (text : String) (world : World) :
    let execution := setup.build.1.execute captured text world
    (∃ (stock : Stock) (rest : List String) (values : List Value), stock.Called text rest values ∧
        stock.next? values world = some execution.world ∧ execution.outcome = .ok (.invoked stock.name)) ∨
      (execution.world = world ∧ ∀ name, execution.outcome ≠ .ok (.invoked name)) := by
  intro execution
  obtain ⟨found, runs, htransaction⟩ := exists_transaction setup.build.1 captured text world
  obtain ⟨hfound, -⟩ := htransaction.eq_execute sound_setup
  have hexecution : execution = found := hfound
  rw [hexecution]
  cases htransaction with
  | blank | help | unknownCommand | wrongCount | badArgument =>
    right
    exact ⟨rfl, by intro name h; cases h⟩
  | @finished command rest values scope hcalled hread hran =>
    left
    obtain ⟨stock, hd⟩ := exists_stock hcalled.mem
    obtain ⟨first, hwords, hfirst⟩ := hcalled.words
    have hname : command.name = stock.name := Stock.name_of_describes hd
    have hreads : Reads rest stock.parameters values := Stock.parameters_of_describes hd ▸ hread
    refine ⟨stock, rest, values, ⟨⟨first, hwords, hfirst.trans hname⟩, hreads⟩, ?_, by rw [hname]⟩
    rcases Stock.invoke_cases hd hreads world [] with ⟨next, added, hnext, hinvoke⟩ | ⟨-, failure, hinvoke⟩
    · rw [hinvoke] at hran
      cases hran
      exact hnext
    · rw [hinvoke] at hran
      cases hran
  | @failed command rest values failure scope hcalled hread hran =>
    right
    obtain ⟨stock, hd⟩ := exists_stock hcalled.mem
    have hreads : Reads rest stock.parameters values := Stock.parameters_of_describes hd ▸ hread
    refine ⟨?_, by intro name h; cases h⟩
    rcases Stock.invoke_cases hd hreads world [] with ⟨next, added, -, hinvoke⟩ | ⟨-, other, hinvoke⟩
    · rw [hinvoke] at hran
      cases hran
    · rw [hinvoke] at hran
      cases hran
      rfl

/-- a stock command that has a next world is invoked and makes it -/
theorem execute_of_called (captured : LevelFilter) (h : stock.Called text rest values)
    (hnext : stock.next? values world = some next) :
    (setup.build.1.execute captured text world).outcome = .ok (.invoked stock.name) ∧
      (setup.build.1.execute captured text world).world = next := by
  obtain ⟨command, hmem, hd⟩ := exists_command stock
  obtain ⟨first, hwords, hfirst⟩ := h.words
  have hname : command.name = stock.name := Stock.name_of_describes hd
  have hcalled : Calls setup.build.1 text command rest := ⟨hmem, first, hwords, hfirst.trans hname.symm⟩
  have hread : Reads rest command.parameters values := (Stock.parameters_of_describes hd).symm ▸ h.reads
  rcases Stock.invoke_cases hd h.reads world [] with ⟨made, added, hmade, hinvoke⟩ | ⟨hnone, -⟩
  · rw [hnext] at hmade
    cases hmade
    have hfinished : Transaction setup.build.1 captured text world ⟨.ok (.invoked command.name), next,
      ([] ++ added).filterMap captured.entry?⟩ [⟨command, values⟩] := .finished hcalled hread hinvoke
    obtain ⟨hexecute, -⟩ := hfinished.eq_execute sound_setup
    rw [hexecute, hname]
    exact ⟨rfl, rfl⟩
  · rw [hnext] at hnone
    cases hnone

/-! ## What holds of every world -/

/-- a scale that a clock takes is a number from zero to one hundred -/
theorem Clock.bounds_of_accepts {value : Double} (h : Clock.accepts value = true) :
    value.isNan = false ∧ (Binary.zero false).le value = true ∧ value.le (Binary.ofNat 100) = true := by
  have hbounds : (Binary.zero false).le value = true ∧ value.le (Binary.ofNat 100) = true := by
    simpa [Clock.accepts, Clock.maxScale] using h
  cases value with
  | nan => cases h
  | number => exact ⟨rfl, hbounds⟩

namespace World

/-- the scale is a number within the bounds, and the active scene is one of these, or has no name if there are none -/
structure Valid (names : List String) (world : World) : Prop where
  number : world.clock.scale.isNan = false
  nonneg : (Binary.zero false).le world.clock.scale = true
  bounded : world.clock.scale.le (Binary.ofNat 100) = true
  scenes : world.scenes.names = names
  listed : names ≠ [] → world.scenes.current ∈ names
  nameless : names = [] → world.scenes.current = ""

theorem Valid.setClock (h : Valid names world) {value : Double} (ha : Clock.accepts value = true) :
    Valid names { world with clock := ⟨value⟩ } := by
  obtain ⟨hnumber, hnonneg, hbounded⟩ := Clock.bounds_of_accepts ha
  exact ⟨hnumber, hnonneg, hbounded, h.scenes, h.listed, h.nameless⟩

theorem Valid.setScenes (h : Valid names world) {name : String} {now : Double} {scenes : Scenes}
    (hload : world.scenes.load? name now = some scenes) : Valid names { world with scenes } := by
  obtain ⟨hmem, hnames, hcurrent⟩ := Scenes.current_of_load? hload
  rw [h.scenes] at hmem hnames
  refine ⟨h.number, h.nonneg, h.bounded, hnames, ?_, ?_⟩
  · intro _
    rw [hcurrent]
    exact hmem
  · rintro rfl
    cases hmem

theorem valid_ofScenes (names : List String) : Valid names (.ofScenes names) := by
  obtain ⟨hnumber, hnonneg, hbounded⟩ := Clock.bounds_of_accepts accepts_realTime
  refine ⟨hnumber, hnonneg, hbounded, rfl, ?_, ?_⟩
  · intro hne
    obtain ⟨first, later, rfl⟩ := List.exists_cons_of_ne_nil hne
    exact List.mem_cons_self
  · rintro rfl
    rfl

/-- the next world of a stock command is valid -/
theorem valid_next (h : Valid names world) (hnext : stock.next? values world = some next) : Valid names next := by
  unfold Stock.next? at hnext
  split at hnext
  · split_ifs at hnext with ha
    cases hnext
    exact h.setClock ha
  · cases hnext
    exact h.setClock accepts_realTime
  · cases hnext
    exact ⟨h.number, h.nonneg, h.bounded, h.scenes, h.listed, h.nameless⟩
  · cases hnext
    exact h
  · split at hnext
    · rename_i scenes hload
      cases hnext
      exact h.setScenes hload
    · cases hnext
      exact h
  · cases hnext

/-- what a line with this outcome changes: the scale is the one typed, or that of real time, or as it was; the active
scene is the one typed if it is listed, and else as it was; and after an error all is as it was -/
structure Follows (text : String) (outcome : Except Fault Outcome) (before after : World) : Prop where
  clock : outcome ≠ .ok (.invoked "set_timescale") → outcome ≠ .ok (.invoked "reset_timescale") →
    after.clock = before.clock
  set_timescale : outcome = .ok (.invoked "set_timescale") → ∃ first word value, Text.words text = [first, word] ∧
    ValueType.float.read? word = some (.float value) ∧ after.clock.scale = value
  reset_timescale : outcome = .ok (.invoked "reset_timescale") → after.clock.scale = Binary.ofNat 1
  scene : outcome ≠ .ok (.invoked "set_scene") → after.scenes.current = before.scenes.current
  set_scene : outcome = .ok (.invoked "set_scene") → ∃ first name, Text.words text = [first, name] ∧
    (name ∈ before.scenes.names → after.scenes.current = name) ∧
    (name ∉ before.scenes.names → after.scenes = before.scenes)
  fault : ∀ fault, outcome = .error fault → after.clock = before.clock ∧ after.scenes = before.scenes

theorem follows_of_called (h : stock.Called text rest values) (hnext : stock.next? values world = some next) :
    Follows text (.ok (.invoked stock.name)) world next := by
  have hinvoked : ∀ other : Stock, (.ok (.invoked stock.name) : Except Fault Outcome) = .ok (.invoked other.name) ↔
      stock = other := by
    intro other
    simp [Stock.name_injective.eq_iff]
  refine ⟨?_, ?_, ?_, ?_, ?_, ?_⟩
  · intro hset hreset
    exact Stock.next?_clock hnext (mt (hinvoked .setTimescale).2 hset) (mt (hinvoked .resetTimescale).2 hreset)
  · intro hset
    obtain rfl := (hinvoked .setTimescale).1 hset
    exact h.scale hnext
  · intro hreset
    obtain rfl := (hinvoked .resetTimescale).1 hreset
    obtain ⟨-, rfl⟩ := reads_nil_iff.1 h.reads
    cases hnext
    rfl
  · intro hset
    exact Stock.next?_current hnext (mt (hinvoked .setScene).2 hset)
  · intro hset
    obtain rfl := (hinvoked .setScene).1 hset
    exact h.scene hnext
  · intro fault hfault
    cases hfault

/-- a line that invokes nothing changes nothing -/
theorem follows_of_idle {outcome : Except Fault Outcome} (h : ∀ name, outcome ≠ .ok (.invoked name)) (now : Double) :
    Follows text outcome world { world with now } := by
  refine ⟨fun _ _ => rfl, ?_, ?_, fun _ => rfl, ?_, fun _ _ => ⟨rfl, rfl⟩⟩
  · intro hset
    exact absurd hset (h _)
  · intro hreset
    exact absurd hreset (h _)
  · intro hset
    exact absurd hset (h _)

/-! ## Line after line -/

end World

/-- a line typed at some moment -/
structure Typed where
  text : String
  now : Double

namespace World

variable {captured : LevelFilter}

/-- what a typed line leads to -/
def answer (captured : LevelFilter) (world : World) (typed : Typed) : Execution host :=
  setup.build.1.execute captured typed.text { world with now := typed.now }

/-- the world after lines typed one after the other -/
def after (captured : LevelFilter) (world : World) (lines : List Typed) : World :=
  lines.foldl (fun world typed => (world.answer captured typed).world) world

/-- one line keeps the world valid and changes what follows from its outcome -/
theorem answer_valid (h : Valid names world) (typed : Typed) :
    Valid names (world.answer captured typed).world ∧
      Follows typed.text (world.answer captured typed).outcome world (world.answer captured typed).world := by
  have hnow : Valid names { world with now := typed.now } :=
    ⟨h.number, h.nonneg, h.bounded, h.scenes, h.listed, h.nameless⟩
  rcases execute_cases captured typed.text { world with now := typed.now } with
    ⟨stock, rest, values, hcalled, hnext, houtcome⟩ | ⟨hworld, houtcome⟩
  · have hfollows := follows_of_called hcalled hnext
    rw [← houtcome] at hfollows
    exact ⟨valid_next hnow hnext, hfollows.clock, hfollows.set_timescale, hfollows.reset_timescale, hfollows.scene,
      hfollows.set_scene, hfollows.fault⟩
  · have hkept : (world.answer captured typed).world = { world with now := typed.now } := hworld
    rw [hkept]
    exact ⟨hnow, follows_of_idle houtcome typed.now⟩

theorem after_valid (h : Valid names world) (lines : List Typed) : Valid names (world.after captured lines) := by
  induction lines generalizing world with
  | nil => exact h
  | cons typed lines ih => exact ih (answer_valid h typed).1

/-- **The host stays valid whatever is typed**: with any scenes and after any lines the world is valid, and one more
line keeps it so and changes no more than follows from its outcome. -/
theorem stays_valid (names : List String) (captured : LevelFilter) (earlier : List Typed) (typed : Typed) :
    let world := (ofScenes names).after captured earlier
    Valid names world ∧ Valid names (world.answer captured typed).world ∧
      Follows typed.text (world.answer captured typed).outcome world (world.answer captured typed).world := by
  intro world
  have hvalid : Valid names world := after_valid (valid_ofScenes names) earlier
  exact ⟨hvalid, answer_valid hvalid typed⟩

/-- half of real time -/
def halfTime : Double := Binary.div (Binary.ofNat 1) (Binary.ofNat 2)

/-- after a scene was loaded, time is slowed down -/
theorem stays_valid_slowed :
    let world := (ofScenes ["Sandbox", "Arena"]).after .off [⟨"set_scene Arena", Binary.ofNat 1⟩]
    let answer := world.answer .off ⟨" Set_TimeScale 0.5 ", Binary.ofNat 2⟩
    world.scenes.current = "Arena" ∧ answer.outcome = .ok (.invoked "set_timescale") ∧
      answer.world.clock.scale = halfTime ∧ answer.world.scenes.current = "Arena" := by
  intro world answer
  have hscene : Stock.setScene.Called "set_scene Arena" ["Arena"] [.text "Arena"] :=
    ⟨⟨"set_scene", by decide +kernel, by decide +kernel⟩, reads_singleton_iff.2 ⟨"Arena", _, rfl, rfl, rfl⟩⟩
  have hloaded : world = ⟨.start, ⟨["Sandbox", "Arena"], 1, Binary.ofNat 1⟩, Binary.ofNat 1⟩ :=
    (execute_of_called .off hscene rfl).2
  have hread : ValueType.float.read? "0.5" = some (.float halfTime) := by decide +kernel
  have hscale : Stock.setTimescale.Called " Set_TimeScale 0.5 " ["0.5"] [.float halfTime] :=
    ⟨⟨"Set_TimeScale", by decide +kernel, by decide +kernel⟩, reads_singleton_iff.2 ⟨"0.5", _, rfl, rfl, hread⟩⟩
  have haccepted : Clock.accepts halfTime = true := by decide +kernel
  have hnext : Stock.setTimescale.next? [.float halfTime] { world with now := Binary.ofNat 2 } =
      some { world with clock := ⟨halfTime⟩, now := Binary.ofNat 2 } := by
    rw [Stock.next?, if_pos haccepted]
  have houtcome : answer.outcome = .ok (.invoked "set_timescale") := (execute_of_called .off hscale hnext).1
  have hcurrent : world.scenes.current = "Arena" := by
    rw [hloaded]
    rfl
  obtain ⟨-, -, hfollows⟩ := stays_valid ["Sandbox", "Arena"] .off [⟨"set_scene Arena", Binary.ofNat 1⟩]
    ⟨" Set_TimeScale 0.5 ", Binary.ofNat 2⟩
  refine ⟨hcurrent, houtcome, ?_, ?_⟩
  · obtain ⟨first, word, value, hwords, hvalue, hset⟩ := hfollows.set_timescale houtcome
    have hsplit : Text.words " Set_TimeScale 0.5 " = ["Set_TimeScale", "0.5"] := by decide +kernel
    rw [hsplit] at hwords
    obtain ⟨-, rfl⟩ : "Set_TimeScale" = first ∧ "0.5" = word := by simpa using hwords
    rw [hread, Option.some.injEq, Value.float.injEq] at hvalue
    exact hset.trans hvalue.symm
  · have hkept := hfollows.scene
    rw [houtcome] at hkept
    exact (hkept (by decide)).trans hcurrent

end World

end HostConsole.Demo
