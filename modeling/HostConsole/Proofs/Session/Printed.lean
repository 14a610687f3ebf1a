/-
What a session prints of the log. A session is a reader of its console's log (`Prints`): each line handled appends a
batch of entries, which depends on the console and the world alone (`Console.appendedBy`), and is followed by a flush.

Result: `printed_once`. Under both drivers and from any log, the entries written come in the order of the log and each
at most once. One is missing exactly if the log's capacity of entries was appended between it and the next flush; if
no line appends more than the log keeps, every entry is written.

The console has debug records of its own where it enters and leaves. They are left out: what is said here is about a
console that does not capture them.
-/
import HostConsole.Demo.Host
import HostConsole.Proofs.Log.Batches
import HostConsole.Session.Basic

namespace HostConsole

variable {H : Host} {source : Source H} {console : Console H} {line : String} {lines : List String}

/-! ## Lines -/

/-- what a session makes of a line -/
inductive Reading where
  | submitted
  | quitting
  | toggling
  deriving DecidableEq

namespace Console

/-- a line is submitted unless it is a word of the session and no command has this name -/
def reading (console : Console H) (line : String) : Reading :=
  let word := Text.trim line
  if console.catalog.contains word then .submitted
  else if Session.isQuitWord word then .quitting
  else if Session.isToggleWord console word then .toggling
  else .submitted

/-- the entries that a line appends, and the world after it, unless it ends the session -/
def answer? (console : Console H) (line : String) (world : H.World) : Option (List Entry × H.World) :=
  match console.reading line with
  | .quitting => none
  | .toggling => some ([], world)
  | .submitted =>
    let execution := console.catalog.execute console.captured line world
    some (execution.entries, execution.world)

/-- the entries that each line appends, up to the line that ends the session -/
def appendedBy (console : Console H) : List String → H.World → List (List Entry)
  | [], _ => []
  | line :: rest, world =>
    match console.answer? line world with
    | none => []
    | some (entries, next) => entries :: console.appendedBy rest next

/-- the same commands read, captured and coloured in the same way -/
structure Agrees (console other : Console H) : Prop where
  catalog : console.catalog = other.catalog
  captured : console.captured = other.captured
  toggleKey : console.toggleKey = other.toggleKey
  coloured : console.coloured = other.coloured

theorem Agrees.trans {first second third : Console H} (h : first.Agrees second) (h' : second.Agrees third) :
    first.Agrees third :=
  ⟨h.catalog.trans h'.catalog, h.captured.trans h'.captured, h.toggleKey.trans h'.toggleKey,
    h.coloured.trans h'.coloured⟩

theorem agrees_update (console : Console H) (seconds : Single) (counters : Unit → Counters) :
    (console.update seconds counters).Agrees console := by
  unfold update
  split <;> exact ⟨rfl, rfl, rfl, rfl⟩

theorem journal_update (console : Console H) (seconds : Single) (counters : Unit → Counters) :
    (console.update seconds counters).journal = console.journal := by
  unfold update
  split <;> rfl

theorem agrees_toggle (console : Console H) : console.toggle.Agrees console :=
  ⟨rfl, rfl, rfl, rfl⟩

theorem agrees_submit (console : Console H) (line : String) (world : H.World) :
    (console.submit line world).2.1.Agrees console :=
  ⟨rfl, rfl, rfl, rfl⟩

theorem Agrees.reading {other : Console H} (h : console.Agrees other) (line : String) :
    console.reading line = other.reading line := by
  unfold Console.reading Session.isToggleWord isToggleKey
  rw [h.catalog, h.toggleKey]

end Console

/-- the piece is an entry of the log -/
def Piece.isEntry : Piece → Bool
  | .entry .. => true
  | _ => false

theorem Console.filter_overlay (console : Console H) : console.overlay.filter Piece.isEntry = [] := by
  have htelemetry : ((console.telemetryText?.map Piece.telemetry).toList).filter Piece.isEntry = [] := by
    cases console.telemetryText? <;> simp [Piece.isEntry]
  have hgraph : console.graphPieces.filter Piece.isEntry = [] := by
    simp only [graphPieces]
    split <;> simp [Piece.isEntry]
  rw [overlay]
  split
  · rw [List.filter_append, htelemetry, hgraph, List.append_nil]
  · rfl

namespace Session

variable {session : Session H} {shared : Journal.Shared Unit}

theorem handle_eq (source : Source H) (session : Session H) (line : String) :
    session.handle source line =
      match session.console.reading line with
      | .quitting => (.quit, session)
      | .toggling => (.proceed, (session.toggle.frame source).flush)
      | .submitted => (.proceed, ((session.submit line).frame source).flush) := by
  simp only [handle, Console.reading]
  split_ifs <;> rfl

/-- the lines of an input before the first that cannot be read -/
def readable : List (Except FileError String) → List String
  | .ok line :: rest => line :: readable rest
  | _ => []

/-- a session driven over lines: over a list of them, or over an input up to where it cannot be read -/
inductive Driven (source : Source H) (session : Session H) : List String → Session H → Prop where
  | lines (lines : List String) : Driven source session lines (session.runLines source lines)
  | input (input : ByteArray) : Driven source session (readable (Input.lines input)) (session.run source input).2

/-! ## A session as a reader -/

/-- the session is where a reader of the shared log is: its log is this log, its cursor the reader's, and of the log
it has written what the reader has received -/
structure Prints (console : Console H) (shared : Journal.Shared Unit) (session : Session H) : Prop where
  agrees : session.console.Agrees console
  journal : session.console.journal = shared.journal
  printed : session.printed = shared.cursor ()
  output : session.output.filter Piece.isEntry = (shared.received ()).map (.entry · console.coloured)

namespace Prints

variable (h : Prints console shared session)
include h

theorem write_of_filter {pieces : List Piece} (hp : pieces.filter Piece.isEntry = []) :
    Prints console shared (session.write pieces) :=
  ⟨h.agrees, h.journal, h.printed, by simpa [write, hp] using h.output⟩

theorem frame (source : Source H) : Prints console shared (session.frame source) :=
  ⟨(session.console.agrees_update _ _).trans h.agrees, (session.console.journal_update _ _).trans h.journal, h.printed,
    h.output⟩

theorem toggle : Prints console shared session.toggle := by
  have htoggled : Prints console shared { session with console := session.console.toggle } :=
    ⟨session.console.agrees_toggle.trans h.agrees, h.journal, h.printed, h.output⟩
  exact htoggled.write_of_filter rfl

/-- a line submitted is its entries appended -/
theorem submit (line : String) :
    Prints console
      (shared.run ((console.catalog.execute console.captured line session.world).entries.map .append))
      (session.submit line) := by
  rw [Journal.run_map_append]
  refine ⟨(session.console.agrees_submit line session.world).trans h.agrees, ?_, h.printed, h.output⟩
  simp only [Session.submit, Console.submit, h.journal, h.agrees.catalog, h.agrees.captured]

/-- a flush is a read -/
theorem flush : Prints console (shared.step (.read ())) session.flush := by
  have htail : session.console.journal.tail session.printed = shared.journal.tail (shared.cursor ()) := by
    rw [h.journal, h.printed]
  refine ⟨h.agrees, h.journal, ?_, ?_⟩
  · simp [Session.flush, write, Journal.Shared.step, htail]
  · have hentries (entries : List Entry) :
        (entries.map (Piece.entry · session.console.coloured)).filter Piece.isEntry =
          entries.map (.entry · console.coloured) := by
      rw [h.agrees.coloured, List.filter_eq_self]
      simp [Piece.isEntry]
    simp [Session.flush, write, Journal.Shared.step, htail, h.output, hentries, Console.filter_overlay]

/-- a line ends the session and changes nothing, or it is its entries appended and a read -/
theorem handle (source : Source H) (line : String) :
    (console.answer? line session.world = none ∧ session.handle source line = (.quit, session)) ∨
      ∃ entries next, console.answer? line session.world = some (entries, next.world) ∧
        session.handle source line = (.proceed, next) ∧ Prints console (shared.run (Journal.flushed [entries])) next := by
  rw [handle_eq, h.agrees.reading, Console.answer?]
  cases console.reading line with
  | quitting => exact Or.inl ⟨rfl, rfl⟩
  | toggling => exact Or.inr ⟨[], (session.toggle.frame source).flush, rfl, rfl, (h.toggle.frame source).flush⟩
  | submitted =>
    set execution := console.catalog.execute console.captured line session.world with hexecution
    refine Or.inr ⟨execution.entries, ((session.submit line).frame source).flush, ?_, rfl, ?_⟩
    · have hworld : ((session.submit line).frame source).flush.world = execution.world := by
        simp only [Session.flush, Session.frame, Session.submit, write, Console.submit, h.agrees.catalog,
          h.agrees.captured, hexecution]
      rw [hworld]
    · rw [Journal.flushed_singleton, Journal.run_snoc]
      exact ((h.submit line).frame source).flush

end Prints

/-! ## Runs -/

/-- lines handled in order are their batches, each with a read after it -/
theorem Prints.handleAll (source : Source H) (lines : List String) (h : Prints console shared session) :
    Prints console (shared.run (Journal.flushed (console.appendedBy lines session.world)))
      (session.handleAll source lines) := by
  induction lines generalizing shared session with
  | nil => exact h
  | cons line rest ih =>
    rw [Console.appendedBy, Session.handleAll]
    rcases h.handle source line with ⟨hanswer, hquit⟩ | ⟨entries, next, hanswer, hproceed, hnext⟩
    · rw [hanswer, hquit]
      exact h
    · rw [hanswer, hproceed, Journal.run_flushed_cons]
      exact ih hnext

/-- the prompts between the lines change nothing of this -/
theorem Prints.promptAll (source : Source H) (lines : List (Except FileError String))
    (h : Prints console shared session) :
    Prints console (shared.run (Journal.flushed (console.appendedBy (readable lines) session.world)))
      (session.promptAll source lines).2 := by
  induction lines generalizing shared session with
  | nil => exact h
  | cons line rest ih =>
    cases line with
    | error e => exact h
    | ok line =>
      rw [readable, Console.appendedBy, Session.promptAll]
      rcases h.handle source line with ⟨hanswer, hquit⟩ | ⟨entries, next, hanswer, hproceed, hnext⟩
      · rw [hanswer, hquit]
        exact h
      · rw [hanswer, hproceed, Journal.run_flushed_cons]
        exact ih (hnext.write_of_filter rfl)

/-- nothing printed yet: the log holds what was appended before -/
theorem prints_start {capacity : ℕ} {earlier : List Entry}
    (hlog : console.journal = (Journal.ofCapacity capacity).appendAll earlier) (world : H.World) :
    Prints console ((Journal.Shared.start capacity).run (earlier.map .append)) (start console world) := by
  rw [Journal.run_map_append]
  exact ⟨⟨rfl, rfl, rfl, rfl⟩, hlog, rfl, rfl⟩

/-- after either driver the session is where the reader is after all batches, the first being what the log held -/
theorem Driven.prints {capacity : ℕ} {earlier : List Entry}
    (hlog : console.journal = (Journal.ofCapacity capacity).appendAll earlier) {world : H.World} {final : Session H}
    (hdriven : Driven source (start console world) lines final) :
    Prints console ((Journal.Shared.start capacity).run (Journal.flushed (earlier :: console.appendedBy lines world)))
      final := by
  have hflush := (prints_start hlog world).flush
  rw [← Journal.run_snoc, ← Journal.flushed_singleton] at hflush
  rw [Journal.run_flushed_cons]
  cases hdriven with
  | lines => exact hflush.handleAll source lines
  | input input => exact (hflush.write_of_filter rfl).promptAll source (Input.lines input)

/-- **Every entry is printed once**: what a session writes of the log are its entries in order, each at most once,
and an entry is missing exactly if the log's capacity of entries was appended between it and the next flush. -/
theorem printed_once {capacity : ℕ} {earlier : List Entry} {world : H.World} {final : Session H}
    (hlog : console.journal = (Journal.ofCapacity capacity).appendAll earlier)
    (hdriven : Driven source (start console world) lines final)
    (hlt : (earlier :: console.appendedBy lines world).flatten.length < UInt64.size) :
    let batches := earlier :: console.appendedBy lines world
    final.console.journal = (Journal.ofCapacity capacity).appendAll batches.flatten ∧
      ∃ printed : List Entry,
        final.output.filter Piece.isEntry = printed.map (.entry · console.coloured) ∧
        (final.output.filter Piece.isEntry).map Piece.text =
          printed.map (fun entry => entry.render console.coloured ++ "\n") ∧
        printed.Sublist batches.flatten ∧
        (∃ positions : List ℕ, positions.Pairwise (· < ·) ∧ printed.map some = positions.map (batches.flatten[·]?) ∧
          ∀ before entry after, Journal.flushed batches = before ++ .append entry :: after →
            ((Journal.appended before).length ∉ positions ↔
              max capacity 1 ≤ (Journal.appended (Journal.untilRead () after)).length)) ∧
        ((∀ batch ∈ batches, batch.length ≤ max capacity 1) → printed = batches.flatten) := by
  intro batches
  have h := hdriven.prints hlog
  obtain ⟨hsublist, hpositions⟩ := Journal.missing_iff_flushed capacity hlt
  refine ⟨?_, _, h.output, ?_, hsublist, hpositions, Journal.received_flushed hlt⟩
  · rw [h.journal, Journal.journal_run_flushed]
    rfl
  · rw [h.output, List.map_map]
    rfl

/-- what the log held before the session -/
def briefEarlier : List Entry :=
  [⟨.info, "a"⟩, ⟨.info, "b"⟩, ⟨.error, "c"⟩]

/-- a console without commands, whose log keeps two entries -/
def briefConsole : Console Demo.host :=
  .withJournal {} .empty ((Journal.ofCapacity 2).appendAll briefEarlier) .off false

/-- no time passes -/
def briefSource : Source Demo.host :=
  ⟨fun _ => Binary.zero false, Demo.World.counters ⟨"", 1, none, "", ""⟩⟩

/-- a line that is no command, two words of the session, and a line after the end -/
def briefLines : List String :=
  ["nope", " Toggle ", "EXIT", "late"]

theorem appendedBy_briefLines :
    briefConsole.appendedBy briefLines Demo.World.start = [[⟨.warning, "Unknown command: nope"⟩], []] := by
  have hfind : ∀ name, briefConsole.catalog.find? name = none := fun name => by
    simp [briefConsole, Console.withJournal, Setup.build, Setup.empty, Catalog.build, Catalog.empty, Catalog.find?]
  have hnope : briefConsole.reading "nope" = .submitted := by
    simp only [Console.reading, Catalog.contains, hfind]
    decide +kernel
  have htoggle : briefConsole.reading " Toggle " = .toggling := by
    simp only [Console.reading, Catalog.contains, hfind]
    decide +kernel
  have hexit : briefConsole.reading "EXIT" = .quitting := by
    simp only [Console.reading, Catalog.contains, hfind]
    decide +kernel
  have hexecute : briefConsole.catalog.execute briefConsole.captured "nope" Demo.World.start =
      ⟨.error (.unknownCommand "nope"), Demo.World.start, [⟨.warning, "Unknown command: nope"⟩]⟩ := by
    have hread : Line.read? "nope" = some ⟨"nope", []⟩ := by decide +kernel
    have hhelp : "nope" ≠ helpWord := by decide
    simp only [Catalog.execute, hread, hhelp, if_false, Catalog.prepare, hfind]
    rfl
  simp only [briefLines, Console.appendedBy, Console.answer?, hnope, htoggle, hexit, hexecute]

theorem printed_once_brief :
    ∃ (printed : List Entry) (positions : List ℕ),
      (((start briefConsole Demo.World.start).runLines briefSource briefLines).output.filter
        Piece.isEntry).map Piece.text = printed.map (fun entry => entry.render briefConsole.coloured ++ "\n") ∧
      printed.map some =
        positions.map ((briefEarlier ++ [⟨.warning, "Unknown command: nope"⟩])[·]?) ∧
      0 ∉ positions ∧ 1 ∈ positions ∧ 3 ∈ positions := by
  have hlt : (briefEarlier :: briefConsole.appendedBy briefLines Demo.World.start).flatten.length < UInt64.size := by
    rw [appendedBy_briefLines]
    decide
  obtain ⟨-, printed, -, htexts, -, ⟨positions, -, hprinted, hmissing⟩, -⟩ :=
    printed_once rfl (Driven.lines briefLines : Driven briefSource (start briefConsole Demo.World.start) _ _) hlt
  rw [appendedBy_briefLines] at hprinted hmissing
  refine ⟨printed, positions, htexts, hprinted, ?_, ?_, ?_⟩
  · exact (hmissing [] _ _ rfl).2 (by decide)
  · by_contra h
    exact absurd ((hmissing [.append ⟨.info, "a"⟩] _ _ rfl).1 h) (by decide)
  · by_contra h
    exact absurd ((hmissing (Journal.flushed [briefEarlier]) _ _ rfl).1 h) (by decide)

end Session

end HostConsole
