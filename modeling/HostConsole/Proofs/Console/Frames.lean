/-
Frames of a console. A host calls its console in any order (`Call`): it submits lines, appends to the log, passes on
keys, shows and hides the overlay, and reports frames. Frames that come while the overlay is hidden are unseen.

Result: `hidden_frames_traceless`.
- Unseen frames leave no trace: without them, or with other times and other counters in their place, the host gets the
  same answers and ends with the same console and the same world.
- The picture never lags behind the rates: at any time it is the one that drawing anew would give, and this depends on
  the sides, the colours and the rates alone.

The console's own debug records are left out, as in what is said of the log; an unseen frame makes none.
-/
import HostConsole.Console
import HostConsole.Demo.Host
import HostConsole.Proofs.Graph.Changes

namespace HostConsole.Console

variable {H : Host}

/-! ## Calls -/

/-- a console and the world of its host -/
abbrev State (H : Host) := Console H × H.World

/-- one call of a host to its console; the counters of a frame are read off the world -/
inductive Call (H : Host) where
  | submit (text : String)
  | log (entry : Entry)
  | handleKey (key : String)
  | toggle
  | setVisible (visible : Bool)
  | update (seconds : Single) (counters : H.World → Counters)

/-- what a call returns -/
inductive Answer where
  | done
  | executed (outcome : Except Fault Outcome)
  | taken (taken : Bool)
  | shown (visible : Bool)

/-- what a call returns, and the state after it; a frame returns nothing -/
def Call.step (state : State H) : Call H → Option Answer × State H
  | .submit text =>
    let (outcome, console, world) := state.1.submit text state.2
    (some (.executed outcome), console, world)
  | .log entry => (some .done, state.1.log entry, state.2)
  | .handleKey key =>
    let (taken, console) := state.1.handleKey key
    (some (.taken taken), console, state.2)
  | .toggle => (some (.shown state.1.toggle.visible), state.1.toggle, state.2)
  | .setVisible visible => (some .done, state.1.setVisible visible, state.2)
  | .update seconds counters => (none, state.1.update seconds fun _ => counters state.2, state.2)

/-- what some calls return, one after the other, and the state after them -/
def run (state : State H) : List (Call H) → List Answer × State H
  | [] => ([], state)
  | call :: rest =>
    let (answer, next) := call.step state
    let (answers, final) := run next rest
    (answer.toList ++ answers, final)

/-- what a call does to a console: a frame moves the meter and draws the graph, and every other call appends to the log
and may show or hide the overlay -/
theorem step_cases (state : State H) (call : Call H) :
    (∃ entries visible,
        (call.step state).2.1 = { state.1 with journal := state.1.journal.appendAll entries, visible }) ∨
      ∃ seconds counters, (call.step state).2.1 =
        { state.1 with
          meter := (state.1.meter.tick seconds counters).1
          graph := (state.1.graph.pushFrame seconds).redraw } := by
  cases call with
  | submit text => exact Or.inl ⟨_, state.1.visible, rfl⟩
  | log entry => exact Or.inl ⟨[entry], state.1.visible, rfl⟩
  | handleKey key =>
    simp only [Call.step, handleKey]
    split_ifs
    · exact Or.inl ⟨[], _, rfl⟩
    · exact Or.inl ⟨[], state.1.visible, rfl⟩
  | toggle => exact Or.inl ⟨[], _, rfl⟩
  | setVisible visible => exact Or.inl ⟨[], visible, rfl⟩
  | update seconds counters =>
    simp only [Call.step, update]
    split_ifs
    · exact Or.inr ⟨seconds, fun _ => counters state.2, rfl⟩
    · exact Or.inl ⟨[], state.1.visible, rfl⟩

/-! ## Unseen frames -/

/-- the call is a frame that comes while the overlay is hidden -/
def Call.unseen (state : State H) : Call H → Bool
  | .update _ _ => !state.1.visible
  | _ => false

/-- the calls without the unseen frames among them -/
def seen (state : State H) : List (Call H) → List (Call H)
  | [] => []
  | call :: rest =>
    let others := seen (call.step state).2 rest
    if call.unseen state then others else call :: others

/-- the same calls, but for the times and counters of unseen frames -/
inductive Retimed : State H → List (Call H) → List (Call H) → Prop
  | nil (state : State H) : Retimed state [] []
  | unseen {state : State H} {call other : Call H} {calls others : List (Call H)} (hidden : call.unseen state = true)
    (other_hidden : other.unseen state = true) (rest : Retimed state calls others) :
    Retimed state (call :: calls) (other :: others)
  | kept {state : State H} (call : Call H) {calls others : List (Call H)}
    (rest : Retimed (call.step state).2 calls others) : Retimed state (call :: calls) (call :: others)

variable {state : State H} {call : Call H} {calls others : List (Call H)}

/-- an unseen frame does nothing -/
theorem step_unseen (h : call.unseen state = true) : call.step state = (none, state) := by
  cases call with
  | update seconds counters =>
    have hhidden : state.1.visible = false := by simpa [Call.unseen] using h
    simp [Call.step, update, hhidden]
  | _ => cases h

theorem run_unseen (h : call.unseen state = true) (calls : List (Call H)) :
    run state (call :: calls) = run state calls := by
  rw [run, step_unseen h]
  rfl

theorem run_cons_congr (call : Call H) (h : run (call.step state).2 others = run (call.step state).2 calls) :
    run state (call :: others) = run state (call :: calls) := by
  simp only [run, h]

/-- without the unseen frames the calls return the same and lead to the same state -/
theorem run_seen (state : State H) (calls : List (Call H)) : run state (seen state calls) = run state calls := by
  induction calls generalizing state with
  | nil => rfl
  | cons call calls ih =>
    rw [seen]
    split_ifs with hunseen
    · rw [run_unseen hunseen, step_unseen hunseen, ih]
    · exact run_cons_congr call (ih _)

/-- calls that differ in their unseen frames alone are the same without them -/
theorem seen_of_retimed (h : Retimed state calls others) : seen state others = seen state calls := by
  induction h with
  | nil => rfl
  | unseen hidden other_hidden _ ih => simp only [seen, hidden, other_hidden, if_true, step_unseen, ih]
  | kept call _ ih => simp only [seen, ih]

/-! ## The picture -/

/-- the graph has its shape, and its picture is the one drawn of it -/
structure UpToDate (graph : RateGraph) : Prop where
  formed : graph.Formed
  drawn : graph.redraw = graph

theorem upToDate_ofSize (width height : ℕ) : UpToDate (RateGraph.ofSize width height) :=
  ⟨RateGraph.formed_ofSize width height, RateGraph.redraw_ofSize width height⟩

theorem upToDate_step (h : UpToDate state.1.graph) (call : Call H) : UpToDate (call.step state).2.1.graph := by
  rcases step_cases state call with ⟨entries, visible, hstep⟩ | ⟨seconds, counters, hstep⟩
  · rw [hstep]
    exact h
  · rw [hstep]
    exact ⟨RateGraph.formed_redraw (RateGraph.formed_pushFrame h.formed seconds), RateGraph.redraw_redraw _⟩

theorem upToDate_run (h : UpToDate state.1.graph) (calls : List (Call H)) : UpToDate (run state calls).2.1.graph := by
  induction calls generalizing state with
  | nil => exact h
  | cons call calls ih => exact ih (upToDate_step h call)

/-- **Hidden frames leave no trace, and the picture never lags.** Calls without their unseen frames, or with others in
their place, return the same and lead to the same state, from every console and world. In every console that comes about
from settings, over whatever log, the picture is the one drawn of any graph with its sides, colours and rates. -/
theorem hidden_frames_traceless :
    (∀ (state : State H) (calls : List (Call H)), run state (seen state calls) = run state calls ∧
      ∀ others, Retimed state calls others → run state others = run state calls) ∧
    ∀ (settings : Settings) (setup : Setup H) (captured : LevelFilter) (terminal : Bool) (journal : Journal)
        (world : H.World) (calls : List (Call H)),
      let console := { withJournal settings setup journal captured terminal with journal }
      let graph := (run (console, world) calls).2.1.graph
      graph.redraw = graph ∧
        ∀ other : RateGraph, other.pixels.size = other.width * other.height → graph.Alike other →
          other.redraw = graph := by
  refine ⟨fun state calls => ⟨run_seen state calls, fun others h => ?_⟩, ?_⟩
  · rw [← run_seen state others, seen_of_retimed h, run_seen]
  · intro settings setup captured terminal journal world calls console graph
    have hstart : UpToDate console.graph := upToDate_ofSize settings.graphWidth settings.graphHeight
    have hgraph : UpToDate graph := upToDate_run (show UpToDate (console, world).1.graph from hstart) calls
    refine ⟨hgraph.drawn, fun other hsize halike => ?_⟩
    rw [RateGraph.redraw_congr halike hgraph.formed.pixels hsize, hgraph.drawn]

/-- a console with a small graph, hidden at the start -/
def smallConsole : Console Demo.host :=
  withJournal { graphWidth := 3, graphHeight := 4 } Demo.setup (Journal.ofCapacity Journal.defaultCapacity) .off false

/-- a frame of so many seconds -/
def smallFrame (seconds : ℕ) : Call Demo.host :=
  .update (Binary.ofNat seconds) (Demo.World.counters ⟨"", 1, none, "", ""⟩)

theorem hidden_frames_traceless_small :
    let state : State Demo.host := (smallConsole, Demo.World.start)
    let calls := [smallFrame 1, .toggle, smallFrame 2]
    let graph := (run state calls).2.1.graph
    run state [.toggle, smallFrame 2] = run state calls ∧
      run state [smallFrame 7, .toggle, smallFrame 2] = run state calls ∧
      graph.redraw = graph ∧
      { graph with pixels := Array.replicate (graph.width * graph.height) .lime }.redraw = graph := by
  intro state calls graph
  obtain ⟨htraceless, hpicture⟩ := hidden_frames_traceless (H := Demo.host)
  obtain ⟨hseen, hretimed⟩ := htraceless state calls
  obtain ⟨hdrawn, halike⟩ := hpicture { graphWidth := 3, graphHeight := 4 } Demo.setup .off false smallConsole.journal
    Demo.World.start calls
  have hothers : Retimed state calls [smallFrame 7, .toggle, smallFrame 2] :=
    .unseen rfl rfl (.kept .toggle (.kept (smallFrame 2) (.nil _)))
  exact ⟨hseen, hretimed _ hothers, hdrawn, halike _ Array.size_replicate ⟨rfl, rfl, rfl, rfl, rfl⟩⟩

end HostConsole.Console
