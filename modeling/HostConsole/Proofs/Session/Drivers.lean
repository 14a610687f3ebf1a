/-
The two drivers of a session side by side: one runs given lines, the other the same lines read from an input, with a
prompt before each. What a session does next depends on everything but what it has written so far, so handling a line
commutes with putting pieces in front of the output (`handle_after`), and two sessions that are alike but for their
output (`silent`) stay alike and write the same for each line (`answers`).

Result: `drivers_agree`. Both drivers leave the same console and the same world, and their outputs differ by the
prompts alone: one after the first flush, and one after what each line wrote that did not end the session. What comes
after a line that ends the session changes nothing, neither the output nor the state of either driver.

The console's own debug records are left out, as in what is said of the log; they are the same under both drivers.
-/
import HostConsole.Proofs.Session.Input
import HostConsole.Proofs.Session.Printed
import HostConsole.Proofs.Text.Spacing

namespace HostConsole

variable {H : Host} {source : Source H} {console : Console H} {line : String} {lines : List String}

/-! ## A carriage return at the end of a line -/

namespace Input

/-- a line is what is read back of it, with blanks behind -/
theorem exists_asRead (line : String) : ∃ trail, Text.AllBlank trail ∧ line.toList = (asRead line).toList ++ trail := by
  rw [asRead]
  split_ifs with hlast
  · obtain ⟨init, hinit⟩ := List.getLast?_eq_some_iff.1 hlast
    refine ⟨['\r'], by decide, ?_⟩
    rw [String.toList_ofList, hinit, List.dropLast_concat]
  · exact ⟨[], Text.allBlank_nil, (List.append_nil _).symm⟩

theorem trim_asRead (line : String) : Text.trim (asRead line) = Text.trim line := by
  obtain ⟨trail, htrail, hline⟩ := exists_asRead line
  rw [Text.trim, Text.trim, hline, Text.trimChars_append_blank htrail]

theorem words_asRead (line : String) : Text.words (asRead line) = Text.words line := by
  rw [← Text.words_trim (asRead line), trim_asRead, Text.words_trim]

end Input

namespace Session

variable {session prompted : Session H}

theorem submit_asRead (session : Session H) (line : String) :
    session.submit (Input.asRead line) = session.submit line := by
  simp only [submit, Console.submit, Catalog.execute, Line.read?, Input.words_asRead]

/-- a session handles what is read back of a line as it handles the line -/
theorem handle_asRead (source : Source H) (session : Session H) (line : String) :
    session.handle source (Input.asRead line) = session.handle source line := by
  simp only [handle, Input.trim_asRead, submit_asRead]

/-! ## Pieces in front of the output -/

/-- the session with nothing written yet -/
def silent (session : Session H) : Session H :=
  { session with output := [] }

/-- the session with these pieces written earlier -/
def after (pieces : List Piece) (session : Session H) : Session H :=
  { session with output := pieces ++ session.output }

@[simp] theorem silent_after (pieces : List Piece) (session : Session H) :
    (session.after pieces).silent = session.silent := rfl

@[simp] theorem silent_write (session : Session H) (pieces : List Piece) :
    (session.write pieces).silent = session.silent := rfl

theorem after_output_silent (session : Session H) : session.silent.after session.output = session := by
  rw [after, silent]
  simp

theorem flush_after (session : Session H) (earlier : List Piece) :
    (session.after earlier).flush = session.flush.after earlier := by
  simp [flush, write, after]

theorem toggle_after (session : Session H) (earlier : List Piece) :
    (session.after earlier).toggle = session.toggle.after earlier := by
  simp [toggle, write, after]

/-- handling a line does not look at what was written before -/
theorem handle_after (source : Source H) (session : Session H) (earlier : List Piece) (line : String) :
    (session.after earlier).handle source line =
      ((session.handle source line).1, (session.handle source line).2.after earlier) := by
  have hsubmit : (((session.after earlier).submit line).frame source).flush =
      (((session.submit line).frame source).flush).after earlier :=
    flush_after ((session.submit line).frame source) earlier
  have htoggle : ((session.after earlier).toggle.frame source).flush =
      ((session.toggle.frame source).flush).after earlier := by
    rw [toggle_after]
    exact flush_after (session.toggle.frame source) earlier
  have hreading : (session.after earlier).console.reading line = session.console.reading line := rfl
  rw [handle_eq, handle_eq, hreading]
  cases session.console.reading line with
  | quitting => rfl
  | toggling => rw [htoggle]
  | submitted => rw [hsubmit]

/-- a line is handled by what a silent session makes of it, behind what was written before -/
theorem handle_eq_silent (source : Source H) (session : Session H) (line : String) :
    session.handle source line = ((session.silent.handle source line).1,
      (session.silent.handle source line).2.after session.output) := by
  conv_lhs => rw [← session.after_output_silent]
  exact handle_after source session.silent session.output line

/-! ## Lines that end the session -/

theorem agrees_handle (source : Source H) (session : Session H) (line : String) :
    (session.handle source line).2.console.Agrees session.console := by
  have hframe (session : Session H) : (session.frame source).flush.console.Agrees session.console :=
    session.console.agrees_update _ _
  rw [handle_eq]
  cases session.console.reading line with
  | quitting => exact ⟨rfl, rfl, rfl, rfl⟩
  | toggling => exact (hframe session.toggle).trans session.console.agrees_toggle
  | submitted => exact (hframe (session.submit line)).trans (session.console.agrees_submit line session.world)

/-- a line ends the session exactly if the console reads it so, and then nothing changes -/
theorem handle_cases (source : Source H) (session : Session H) (line : String) :
    (session.console.reading line = .quitting ∧ session.handle source line = (.quit, session)) ∨
      (session.console.reading line ≠ .quitting ∧
        ∃ next, session.handle source line = (.proceed, next) ∧ next.console.Agrees session.console) := by
  have hagrees := agrees_handle source session line
  rw [handle_eq] at hagrees ⊢
  cases hreading : session.console.reading line with
  | quitting => exact Or.inl ⟨rfl, rfl⟩
  | toggling =>
    rw [hreading] at hagrees
    exact Or.inr ⟨by decide, _, rfl, hagrees⟩
  | submitted =>
    rw [hreading] at hagrees
    exact Or.inr ⟨by decide, _, rfl, hagrees⟩

/-- what comes after a line that ends the session is not handled -/
theorem handleAll_quitting {quitting : String} (before rest : List String)
    (h : session.console.reading quitting = .quitting) :
    session.handleAll source (before ++ quitting :: rest) = session.handleAll source (before ++ [quitting]) := by
  induction before generalizing session with
  | nil =>
    rcases handle_cases source session quitting with ⟨-, hquit⟩ | ⟨hne, -⟩
    · simp only [List.nil_append, handleAll, hquit]
    · exact absurd h hne
  | cons line before ih =>
    rw [List.cons_append, List.cons_append, handleAll, handleAll]
    rcases handle_cases source session line with ⟨-, hquit⟩ | ⟨-, next, hnext, hagrees⟩
    · rw [hquit]
    · rw [hnext]
      exact ih (by rw [hagrees.reading, h])

/-- what comes after a line that ends the session is not read either -/
theorem promptAll_quitting {quitting : String} (before : List String) (rest : List (Except FileError String))
    (h : session.console.reading quitting = .quitting) :
    session.promptAll source (before.map .ok ++ .ok quitting :: rest) =
      session.promptAll source (before.map .ok ++ [.ok quitting]) := by
  induction before generalizing session with
  | nil =>
    rcases handle_cases source session quitting with ⟨-, hquit⟩ | ⟨hne, -⟩
    · simp only [List.map_nil, List.nil_append, promptAll, hquit]
    · exact absurd h hne
  | cons line before ih =>
    rw [List.map_cons, List.cons_append, List.cons_append, promptAll, promptAll]
    rcases handle_cases source session line with ⟨-, hquit⟩ | ⟨-, next, hnext, hagrees⟩
    · rw [hquit]
    · rw [hnext]
      exact ih (by rw [write, hagrees.reading, h])

/-! ## What each line writes -/

/-- what each line writes, up to the line that ends the session -/
def answers (source : Source H) : List String → Session H → List (List Piece)
  | [], _ => []
  | line :: rest, session =>
    match session.silent.handle source line with
    | (.proceed, next) => next.output :: answers source rest next
    | (.quit, _) => []

/-- one step of either driver: the line ends both sessions, or both go on alike and write the same -/
theorem handle_alike (source : Source H) (h : prompted.silent = session.silent) (line : String) :
    (session.console.reading line = .quitting ∧ session.handle source line = (.quit, session) ∧
        prompted.handle source line = (.quit, prompted) ∧ session.silent.handle source line = (.quit, session.silent)) ∨
      (session.console.reading line ≠ .quitting ∧
        ∃ next, session.silent.handle source line = (.proceed, next) ∧ next.console.Agrees session.console ∧
          session.handle source line = (.proceed, next.after session.output) ∧
          prompted.handle source line = (.proceed, next.after prompted.output)) := by
  have hsession := handle_eq_silent source session line
  have hprompted := handle_eq_silent source prompted line
  rw [h] at hprompted
  rcases handle_cases source session.silent line with ⟨hreading, hquit⟩ | ⟨hreading, next, hnext, hagrees⟩
  · rw [hquit] at hsession hprompted
    refine Or.inl ⟨hreading, ?_, ?_, hquit⟩
    · rw [hsession, after_output_silent]
    · rw [hprompted, ← h, after_output_silent]
  · rw [hnext] at hsession hprompted
    exact Or.inr ⟨hreading, next, hnext, hagrees, hsession, hprompted⟩

theorem answers_silent (source : Source H) (h : prompted.silent = session.silent) (lines : List String) :
    prompted.answers source lines = session.answers source lines := by
  cases lines with
  | nil => rfl
  | cons line rest => rw [answers, answers, h]

/-- the lines that are answered are those before the first that ends the session -/
theorem length_answers (source : Source H) (session : Session H) (lines : List String) :
    (session.answers source lines).length =
      (lines.takeWhile fun line => session.console.reading line ≠ .quitting).length := by
  induction lines generalizing session with
  | nil => rfl
  | cons line rest ih =>
    rw [answers]
    rcases handle_cases source session.silent line with ⟨hreading, hquit⟩ | ⟨hreading, next, hnext, hagrees⟩
    · have hquits : session.console.reading line = .quitting := hreading
      rw [hquit, List.takeWhile_cons_of_neg (by simpa using hquits)]
      rfl
    · have hgoes : session.console.reading line ≠ .quitting := hreading
      have hsame : ∀ other, next.console.reading other = session.console.reading other := hagrees.reading
      rw [hnext, List.takeWhile_cons_of_pos (by simpa using hgoes), List.length_cons, List.length_cons, ih next]
      simp only [hsame]

/-- the driver without a prompt writes what each line writes -/
theorem output_handleAll (source : Source H) (session : Session H) (lines : List String) :
    (session.handleAll source lines).output = session.output ++ (session.answers source lines).flatten := by
  induction lines generalizing session with
  | nil => exact (List.append_nil _).symm
  | cons line rest ih =>
    rw [handleAll, answers]
    rcases handle_alike source (rfl : session.silent = session.silent) line with
      ⟨-, hquit, -, hsilent⟩ | ⟨-, next, hsilent, -, hnext, -⟩
    · rw [hquit, hsilent]
      exact (List.append_nil _).symm
    · rw [hnext, hsilent]
      simp only [ih, answers_silent source (silent_after session.output next), List.flatten_cons]
      rw [after, List.append_assoc]

/-- the driver with a prompt goes along, and writes a prompt after what each line writes -/
theorem promptAll_alike (source : Source H) (h : prompted.silent = session.silent) (lines : List String) :
    (prompted.promptAll source (lines.map .ok)).1 = .ok () ∧
      (prompted.promptAll source (lines.map .ok)).2.silent = (session.handleAll source lines).silent ∧
      (prompted.promptAll source (lines.map .ok)).2.output =
        prompted.output ++ (session.answers source lines).flatMap (· ++ [.prompt]) := by
  induction lines generalizing prompted session with
  | nil => exact ⟨rfl, h, (List.append_nil _).symm⟩
  | cons line rest ih =>
    rw [List.map_cons, promptAll, handleAll, answers]
    rcases handle_alike source h line with ⟨-, hquit, hprompted, hsilent⟩ | ⟨-, next, hsilent, -, hnext, hprompted⟩
    · rw [hquit, hprompted, hsilent]
      exact ⟨rfl, h, (List.append_nil _).symm⟩
    · rw [hnext, hprompted, hsilent]
      have halike : ((next.after prompted.output).write [.prompt]).silent = (next.after session.output).silent := rfl
      obtain ⟨hresult, hstate, houtput⟩ := ih halike
      refine ⟨hresult, hstate, houtput.trans ?_⟩
      rw [answers_silent source (silent_after session.output next)]
      simp only [write, after, List.flatMap_cons, List.append_assoc]

/-! ## Prompts -/

theorem prompt_not_mem_overlay (console : Console H) : .prompt ∉ console.overlay := by
  have htelemetry : .prompt ∉ (console.telemetryText?.map Piece.telemetry).toList := by
    cases console.telemetryText? <;> simp
  have hgraph : .prompt ∉ console.graphPieces := by
    simp only [Console.graphPieces]
    split_ifs <;> simp
  rw [Console.overlay]
  split_ifs
  · exact fun hmem => (List.mem_append.1 hmem).elim htelemetry hgraph
  · exact List.not_mem_nil

/-- a flush writes no prompt -/
theorem prompt_not_mem_flush (h : .prompt ∉ session.output) : .prompt ∉ session.flush.output := by
  intro hmem
  rcases List.mem_append.1 hmem with hold | hnew
  · exact h hold
  · rcases List.mem_append.1 hnew with hentry | hoverlay
    · obtain ⟨entry, -, hpiece⟩ := List.mem_map.1 hentry
      cases hpiece
    · exact prompt_not_mem_overlay _ hoverlay

/-- no line is answered with a prompt -/
theorem prompt_not_mem_handle (source : Source H) (h : .prompt ∉ session.output) (line : String) :
    .prompt ∉ (session.handle source line).2.output := by
  rw [handle_eq]
  cases session.console.reading line with
  | quitting => exact h
  | submitted => exact prompt_not_mem_flush h
  | toggling =>
    have htoggle : .prompt ∉ session.toggle.output := fun hmem =>
      (List.mem_append.1 hmem).elim h (by simp)
    exact prompt_not_mem_flush htoggle

theorem prompt_not_mem_answers (source : Source H) (session : Session H) (lines : List String) :
    ∀ answer ∈ session.answers source lines, .prompt ∉ answer := by
  induction lines generalizing session with
  | nil => exact fun _ hmem => by cases hmem
  | cons line rest ih =>
    have hempty : .prompt ∉ session.silent.output := List.not_mem_nil
    have hline := prompt_not_mem_handle source hempty line
    rw [answers]
    split
    · rename_i next hnext
      rw [hnext] at hline
      exact List.forall_mem_cons.2 ⟨hline, ih next⟩
    · exact fun _ hmem => by cases hmem

/-! ## Both drivers -/

theorem text_append (first second : List Piece) :
    Piece.join (first ++ second) = Piece.join first ++ Piece.join second := by
  simp [Piece.join, String.join_append]

theorem text_prompts (answers : List (List Piece)) :
    Piece.join (.prompt :: answers.flatMap (· ++ [.prompt])) =
      "> " ++ String.join (answers.map fun answer => Piece.join answer ++ "> ") := by
  have hprompt : Piece.join [.prompt] = "> " := rfl
  have hanswers : Piece.join (answers.flatMap (· ++ [.prompt])) =
      String.join (answers.map fun answer => Piece.join answer ++ "> ") := by
    induction answers with
    | nil => rfl
    | cons answer rest ih => rw [List.flatMap_cons, text_append, text_append, hprompt, ih, List.map_cons,
        String.join_cons]
  rw [← List.singleton_append, text_append, hprompt, hanswers]

theorem promptAll_asRead (source : Source H) (session : Session H) (lines : List String)
    (rest : List (Except FileError String)) :
    session.promptAll source (lines.map (fun line => .ok (Input.asRead line)) ++ rest) =
      session.promptAll source (lines.map .ok ++ rest) := by
  induction lines generalizing session with
  | nil => rfl
  | cons line lines ih =>
    simp only [List.map_cons, List.cons_append, promptAll, handle_asRead]
    split
    · exact ih _
    · rfl

/-- an input of lines is run as the lines themselves, followed by those of what comes after them -/
theorem run_ofLines (source : Source H) (session : Session H) (hlines : ∀ line ∈ lines, '\n' ∉ line.toList)
    (rest : ByteArray) : session.run source (Input.ofLines lines ++ rest) =
      (session.flush.write [.prompt]).promptAll source (lines.map .ok ++ Input.lines rest) := by
  rw [run, Input.lines_ofLines hlines, promptAll_asRead]

theorem run_ofLines_nil (source : Source H) (session : Session H) (hlines : ∀ line ∈ lines, '\n' ∉ line.toList) :
    session.run source (Input.ofLines lines) =
      (session.flush.write [.prompt]).promptAll source (lines.map .ok) := by
  have hrun := run_ofLines source session hlines .empty
  rwa [ByteArray.append_empty, show Input.lines .empty = [] from rfl, List.append_nil] at hrun

/-- an input is not read past a line that ends the session -/
theorem run_quitting (source : Source H) (session : Session H) {before : List String} {quitting : String}
    (hlines : ∀ line ∈ before ++ [quitting], '\n' ∉ line.toList) (h : session.console.reading quitting = .quitting)
    (rest : ByteArray) : session.run source (Input.ofLines (before ++ [quitting]) ++ rest) =
      (session.flush.write [.prompt]).promptAll source (before.map .ok ++ [.ok quitting]) := by
  have hquits : (session.flush.write [.prompt]).console.reading quitting = .quitting := h
  rw [run_ofLines source session hlines, List.map_append, List.map_singleton, List.append_assoc,
    List.singleton_append, promptAll_quitting before _ hquits]

/-- **Both drivers agree.** Lines read from an input leave the console and the world that the same lines leave when
they are given, and the output is the same but for a prompt after the first flush and one after each answer. A line
that ends the session makes everything after it irrelevant, for either driver. -/
theorem drivers_agree (source : Source H) (session : Session H) (lines : List String)
    (hlines : ∀ line ∈ lines, '\n' ∉ line.toList) :
    let given := session.runLines source lines
    let read := session.run source (Input.ofLines lines)
    let answers := session.flush.answers source lines
    read.1 = .ok () ∧ read.2.console = given.console ∧ read.2.world = given.world ∧
      given.output = session.flush.output ++ answers.flatten ∧
      read.2.output = session.flush.output ++ .prompt :: answers.flatMap (· ++ [.prompt]) ∧
      Piece.join read.2.output =
        Piece.join session.flush.output ++ "> " ++ String.join (answers.map fun answer => Piece.join answer ++ "> ") ∧
      answers.length = (lines.takeWhile fun line => session.console.reading line ≠ .quitting).length ∧
      (∀ answer ∈ session.silent.flush.output :: answers, .prompt ∉ answer) ∧
      ∀ before quitting after, lines = before ++ quitting :: after → session.console.reading quitting = .quitting →
        (∀ others, session.runLines source (before ++ quitting :: others) = given) ∧
          ∀ others, session.run source (Input.ofLines (before ++ [quitting]) ++ others) = read := by
  intro given read answers
  have hread : read = (session.flush.write [.prompt]).promptAll source (lines.map .ok) :=
    run_ofLines_nil source session hlines
  obtain ⟨hresult, hstate, houtput⟩ :=
    promptAll_alike source (silent_write session.flush [.prompt]) lines
  rw [← hread] at hresult hstate houtput
  have hpieces : read.2.output = session.flush.output ++ .prompt :: answers.flatMap (· ++ [.prompt]) := by
    rw [houtput, write, List.append_assoc, List.singleton_append]
  have hconsole : read.2.silent.console = given.silent.console := by rw [hstate]; rfl
  have hworld : read.2.silent.world = given.silent.world := by rw [hstate]; rfl
  refine ⟨hresult, hconsole, hworld, output_handleAll source session.flush lines, hpieces, ?_,
    length_answers source session.flush lines, ?_, ?_⟩
  · rw [hpieces, text_append, text_prompts, String.append_assoc]
  · exact List.forall_mem_cons.2
      ⟨prompt_not_mem_flush List.not_mem_nil, prompt_not_mem_answers source session.flush lines⟩
  · rintro before quitting after rfl hquits
    have hbefore : ∀ line ∈ before ++ [quitting], '\n' ∉ line.toList := fun line hmem =>
      hlines line (by
        rw [List.append_cons]
        exact List.mem_append_left after hmem)
    have hflush : session.flush.console.reading quitting = .quitting := hquits
    have hprompt : (session.flush.write [.prompt]).console.reading quitting = .quitting := hquits
    refine ⟨fun others => ?_, fun others => ?_⟩
    · exact (handleAll_quitting before others hflush).trans (handleAll_quitting before after hflush).symm
    · rw [run_quitting source session hbefore hquits, hread, List.map_append, List.map_cons]
      exact (promptAll_quitting before (after.map .ok) hprompt).symm

/-- a console without commands reads the lines of this list: one to submit, two words of the session, one too many -/
theorem reading_briefConsole : briefConsole.reading "nope\r" = .submitted ∧
    briefConsole.reading " Toggle " = .toggling ∧ briefConsole.reading "EXIT" = .quitting := by
  have hfind : ∀ name, briefConsole.catalog.find? name = none := fun name => by
    simp [briefConsole, Console.withJournal, Setup.build, Setup.empty, Catalog.build, Catalog.empty, Catalog.find?]
  simp only [Console.reading, Catalog.contains, hfind]
  decide +kernel

theorem drivers_agree_brief :
    let lines := ["nope\r", " Toggle ", "EXIT", "late"]
    let session := start briefConsole Demo.World.start
    let read := session.run briefSource (Input.ofLines lines)
    read.2.console = (session.runLines briefSource lines).console ∧
      (session.flush.answers briefSource lines).length = 2 ∧
      ∀ others, session.run briefSource (Input.ofLines ["nope\r", " Toggle ", "EXIT"] ++ others) = read := by
  intro lines session read
  obtain ⟨hnope, htoggle, hexit⟩ := reading_briefConsole
  obtain ⟨-, hconsole, -, -, -, -, hlength, -, hquitting⟩ := drivers_agree briefSource session lines (by decide)
  refine ⟨hconsole, hlength.trans ?_, (hquitting ["nope\r", " Toggle "] "EXIT" ["late"] rfl hexit).2⟩
  have hcontrol : (lines.takeWhile fun line => briefConsole.reading line ≠ .quitting) = ["nope\r", " Toggle "] := by
    simp [lines, hnope, htoggle, hexit]
  exact congrArg List.length hcontrol

end Session

end HostConsole
