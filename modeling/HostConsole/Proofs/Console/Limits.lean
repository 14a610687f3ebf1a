/-
Accepted settings are valid, and a console keeps to them. A host calls its console, clears the log and registers
commands in any order (`Change`); its console honours its settings (`Honours`) when the log, the graph and the meter
have exactly the sizes and the interval of the settings, and the log and the graph hold no more than that.

Result: `accepted_honoured`. A text is accepted exactly if the settings in it are valid, and refused for the first limit
broken otherwise. A console is made of accepted settings exactly if they ask for less than `2 ^ 58` lines; it honours
them at any time, whatever the host does. So what the log, the graph and the meter do to sizes and intervals outside
their limits never changes an accepted one, and an accepted log can still be too long to be made
(`greatest_log_unmade`).
-/
import HostConsole.Proofs.Binary.Widening
import HostConsole.Proofs.Console.Frames
import HostConsole.Proofs.Graph.Samples
import HostConsole.Proofs.Settings.Reservations

namespace HostConsole

/-! ## The log -/

namespace Journal

variable {limit : ℕ} {journal : Journal}

/-- the log has this capacity, and no more entries -/
structure Capped (limit : ℕ) (journal : Journal) : Prop where
  capacity : journal.capacity = limit
  entries : journal.entries.length ≤ limit

theorem length_newest (n : ℕ) (entries : List Entry) : (newest n entries).length = min n entries.length := by
  rw [newest, List.length_drop]
  omega

theorem capped_ofCapacity (h : 1 ≤ limit) : Capped limit (ofCapacity limit) :=
  ⟨Nat.max_eq_left h, Nat.zero_le _⟩

theorem capped_append (h : Capped limit journal) (entry : Entry) : Capped limit (journal.append entry) := by
  refine ⟨h.capacity, ?_⟩
  rw [append, length_newest, h.capacity]
  exact Nat.min_le_left _ _

theorem capped_appendAll (h : Capped limit journal) (entries : List Entry) :
    Capped limit (journal.appendAll entries) := by
  induction entries generalizing journal with
  | nil => exact h
  | cons entry entries ih => exact ih (capped_append h entry)

theorem capped_clear (h : Capped limit journal) : Capped limit journal.clear :=
  ⟨h.capacity, Nat.zero_le _⟩

end Journal

/-! ## The graph and the meter -/

theorem RateGraph.sides_pushFrame (graph : RateGraph) (seconds : Single) :
    (graph.pushFrame seconds).width = graph.width ∧ (graph.pushFrame seconds).height = graph.height :=
  sides_apply graph (.pushFrame seconds)

theorem Meter.interval_tick (meter : Meter) (seconds : Single) (counters : Unit → Counters) :
    (meter.tick seconds counters).1.interval = meter.interval := by
  simp only [tick]
  split_ifs <;> rfl

/-- a time above zero is the same time in double width -/
theorem Meter.sameValue_duration {seconds : Single} (h : seconds.IsPositive) :
    Binary.SameValue seconds (duration seconds) := by
  rw [duration, h.max_zero]
  exact Binary.sameValue_convert Format.single_within_double (Binary.isPositive_iff.1 h).1

namespace Console

variable {H : Host} {settings : Settings} {state : State H}

/-! ## Changes -/

/-- what a host does: it calls its console, clears the log, or registers one more command -/
inductive Change (H : Host) where
  | call (made : Call H)
  | clearLog
  | register (receivers : Receivers H) (declaration : Declaration H)

/-- the state after a change -/
def Change.apply (state : State H) : Change H → State H
  | .call made => (made.step state).2
  | .clearLog => ({ state.1 with journal := state.1.journal.clear }, state.2)
  | .register receivers declaration =>
    ({ state.1 with catalog := (state.1.catalog.register receivers declaration).1 }, state.2)

/-- the state after some changes, one after the other -/
def after (state : State H) (changes : List (Change H)) : State H :=
  changes.foldl Change.apply state

/-! ## Keeping to the settings -/

/-- the console has the sizes and the interval of the settings, and holds no more than they allow -/
structure Honours (settings : Settings) (console : Console H) : Prop where
  capacity : console.journal.capacity = settings.maxLogLines
  entries : console.journal.entries.length ≤ settings.maxLogLines
  width : console.graph.width = settings.graphWidth
  height : console.graph.height = settings.graphHeight
  samples : console.graph.samples.length ≤ settings.graphWidth
  interval : Binary.SameValue settings.sampleInterval console.meter.interval

/-- what each change keeps, and all that a console that honours its settings needs -/
structure Kept (settings : Settings) (console : Console H) : Prop where
  journal : console.journal.Capped settings.maxLogLines
  sides : console.graph.width = settings.graphWidth ∧ console.graph.height = settings.graphHeight
  graph : UpToDate console.graph
  interval : Binary.SameValue settings.sampleInterval console.meter.interval

theorem Kept.honours {console : Console H} (h : Kept settings console) : Honours settings console where
  capacity := h.journal.capacity
  entries := h.journal.entries
  width := h.sides.1
  height := h.sides.2
  samples := h.sides.1 ▸ h.graph.formed.samples
  interval := h.interval

theorem kept_start (h : settings.Valid) (setup : Setup H) (captured : LevelFilter) (terminal : Bool) :
    Kept settings (withJournal settings setup (Journal.ofCapacity settings.maxLogLines) captured terminal) where
  journal := Journal.capped_appendAll (Journal.capped_ofCapacity h.lines) setup.build.2
  sides := ⟨RateGraph.clampSide_of_within h.sides.1, RateGraph.clampSide_of_within h.sides.2⟩
  graph := upToDate_ofSize settings.graphWidth settings.graphHeight
  interval := Meter.sameValue_duration h.interval

theorem kept_step (h : Kept settings state.1) (call : Call H) : Kept settings (call.step state).2.1 := by
  have hgraph := upToDate_step h.graph call
  rcases step_cases state call with ⟨entries, visible, hstep⟩ | ⟨seconds, counters, hstep⟩
  · rw [hstep]
    exact ⟨Journal.capped_appendAll h.journal entries, h.sides, h.graph, h.interval⟩
  · rw [hstep] at hgraph ⊢
    obtain ⟨hwidth, hheight⟩ := RateGraph.sides_pushFrame state.1.graph seconds
    refine ⟨h.journal, ⟨hwidth.trans h.sides.1, hheight.trans h.sides.2⟩, hgraph, ?_⟩
    rw [Meter.interval_tick]
    exact h.interval

theorem kept_apply (h : Kept settings state.1) (change : Change H) : Kept settings (change.apply state).1 := by
  cases change with
  | call made => exact kept_step h made
  | clearLog => exact ⟨Journal.capped_clear h.journal, h.sides, h.graph, h.interval⟩
  | register receivers declaration => exact ⟨h.journal, h.sides, h.graph, h.interval⟩

theorem kept_after (h : Kept settings state.1) (changes : List (Change H)) :
    Kept settings (after state changes).1 := by
  induction changes generalizing state with
  | nil => exact h
  | cons change changes ih => exact ih (kept_apply h change)

/-- **Accepted settings are valid, and honoured exactly by every console that can be made of them.** A text is accepted
exactly if it gives settings and they are valid; if they are not, it is refused for the first limit they break. Of
accepted settings with less than `2 ^ 58` lines a console is made, and it honours them at the start and after whatever
its host does. With more lines no console is made: the memory for the log cannot be reserved. -/
theorem accepted_honoured (text : String) (settings : Settings) :
    (Settings.ofText text = .ok settings ↔ Settings.GivenBy text settings ∧ settings.Valid) ∧
    (Settings.GivenBy text settings → ¬ settings.Valid →
      ∃ violation, Settings.FirstBroken settings violation.key violation ∧
        Settings.ofText text = .error (.invalid violation)) ∧
    (Settings.ofText text = .ok settings → ∀ (setup : Setup H) (captured : LevelFilter) (terminal : Bool),
      (settings.maxLogLines < 2 ^ 58 → ∃ console, ofSettings settings setup captured terminal = .ok console ∧
        ∀ (world : H.World) (changes : List (Change H)), Honours settings (after (console, world) changes).1) ∧
      (2 ^ 58 ≤ settings.maxLogLines →
        ofSettings settings setup captured terminal = .error ⟨settings.maxLogLines, 32⟩)) := by
  refine ⟨Settings.ofText_eq_ok_iff, fun hgiven hinvalid => ?_,
    fun htext setup captured terminal => ⟨fun hlines => ?_, fun hlines => ?_⟩⟩
  · rcases settings.check_cases with ⟨hvalid, -⟩ | ⟨violation, hbroken, -⟩
    · exact absurd hvalid hinvalid
    · exact ⟨violation, hbroken, (Settings.ofText_eq_invalid_iff hgiven).2 hbroken⟩
  · have hvalid := (Settings.ofText_eq_ok_iff.1 htext).2
    let console := withJournal settings setup (Journal.ofCapacity settings.maxLogLines) captured terminal
    have hmade : ofSettings settings setup captured terminal = .ok console :=
      (ofSettings_eq settings setup captured terminal).trans (if_pos hlines)
    refine ⟨console, hmade, fun world changes => ?_⟩
    have hstart : Kept settings (console, world).1 := kept_start hvalid setup captured terminal
    exact (kept_after hstart changes).honours
  · exact (ofSettings_eq settings setup captured terminal).trans (if_neg (Nat.not_lt.2 hlines))

theorem accepted_honoured_one_line :
    Settings.ofText "max_log_lines = 1" = .ok { maxLogLines := 1 } ∧ Settings.Valid { maxLogLines := 1 } ∧
      (∃ console, ofSettings { maxLogLines := 1 } Demo.setup .off false = .ok console ∧
        Honours { maxLogLines := 1 } (after (console, Demo.World.start)
          [.call .toggle, .call (smallFrame 1), .register .empty (.free "late" "" [] fun _ => pure ()), .clearLog,
            .call (.submit "late 1"), .call (smallFrame 0)]).1) ∧
      -- above zero as it is written, and zero in 32 bits
      ∃ settings, Settings.GivenBy "sample_interval_secs = 1e-50" settings ∧ ¬ settings.Valid ∧
        Settings.FirstBroken settings "sample_interval_secs" (.interval (Binary.zero false)) := by
  have hline : Settings.ofText "max_log_lines = 1" = .ok { maxLogLines := 1 } := by decide +kernel
  have hvanishing : Settings.ofText "sample_interval_secs = 1e-50" =
      .error (.invalid (.interval (Binary.zero false))) := by
    decide +kernel
  obtain ⟨haccepted, -, hmade⟩ := accepted_honoured (H := Demo.host) "max_log_lines = 1" { maxLogLines := 1 }
  obtain ⟨console, hconsole, hhonoured⟩ := (hmade hline Demo.setup .off false).1 (by decide)
  refine ⟨hline, (haccepted.1 hline).2, ⟨console, hconsole, hhonoured _ _⟩, ?_⟩
  obtain ⟨given, hgiven⟩ := Settings.exists_givenBy hvanishing (Or.inr ⟨_, rfl⟩)
  obtain ⟨haccepted, hrefused, -⟩ := accepted_honoured (H := Demo.host) "sample_interval_secs = 1e-50" given
  have hinvalid : ¬ given.Valid := fun hvalid => by
    have haccept := haccepted.2 ⟨hgiven, hvalid⟩
    rw [hvanishing] at haccept
    cases haccept
  obtain ⟨violation, hbroken, htext⟩ := hrefused hgiven hinvalid
  obtain rfl : .interval (Binary.zero false) = violation := by
    rwa [hvanishing, Except.error.injEq, Settings.TextError.invalid.injEq] at htext
  exact ⟨given, hgiven, hinvalid, hbroken⟩

/-- settings that ask for the greatest log are accepted, and no console can be made of them -/
theorem greatest_log_unmade :
    let greatest : Settings := { maxLogLines := 9223372036854775807 }
    Settings.ofText "max_log_lines = 9223372036854775807" = .ok greatest ∧
      ofSettings greatest Demo.setup .off false = .error ⟨9223372036854775807, 32⟩ ∧
      ¬ ∃ console, ofSettings greatest Demo.setup .off false = .ok console := by
  intro greatest
  have hunmade : ofSettings greatest Demo.setup .off false = .error ⟨9223372036854775807, 32⟩ := by
    rw [ofSettings_eq, if_neg (by decide)]
  refine ⟨by decide +kernel, hunmade, ?_⟩
  rintro ⟨console, hmade⟩
  rw [hunmade] at hmade
  cases hmade

end Console

end HostConsole
