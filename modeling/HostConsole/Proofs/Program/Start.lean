/-
How the program starts and ends. It takes its settings from a file that is there or has to be there (`ReadFrom`), or
those that hold when nothing is said, and makes its console before any command can run.

Result: `panics_iff`. The reservations of accepted settings are those for the lines and sides they ask for. Those of the
graph can always be made, and that of the log exactly for less than `2 ^ 58` lines: the program panics exactly if it
reads accepted settings that ask for more (`greatest_log_panics`).
-/
import HostConsole.Program
import HostConsole.Proofs.Settings.Reservations

namespace HostConsole

namespace Settings

variable {settings : Settings}

/-! ## Settings that are read -/

/-- the settings are those of a file that is there or has to be there, and they are accepted -/
def ReadFrom (environment : Environment) (files : Files) (given : Option String) (settings : Settings) : Prop :=
  ∃ path text, file? environment given = .ok (some path) ∧ (given.isSome || files.isFile path) = true ∧
    files.read path = .ok text ∧ ofText text = .ok settings

theorem loadFile_eq_ok_iff {files : Files} {path : String} :
    loadFile files path = .ok settings ↔ ∃ text, files.read path = .ok text ∧ ofText text = .ok settings := by
  unfold loadFile
  cases hread : files.read path with
  | error e => simp
  | ok text =>
    cases htext : ofText text with
    | ok found => simp [htext]
    | error e => cases e <;> simp [htext]

/-- settings that were loaded were read from a file, or are those that hold when nothing is said -/
theorem readFrom_of_load {environment : Environment} {files : Files} {given : Option String}
    (h : load environment files given = .ok settings) : ReadFrom environment files given settings ∨ settings = {} := by
  unfold load at h
  split at h
  · cases h
  · cases h
    exact Or.inr rfl
  · rename_i path hpath
    split_ifs at h with hfile
    · obtain ⟨text, hread, htext⟩ := loadFile_eq_ok_iff.1 h
      exact Or.inl ⟨path, text, hpath, hfile, hread, htext⟩
    · cases h
      exact Or.inr rfl

theorem load_of_readFrom {environment : Environment} {files : Files} {given : Option String}
    (h : ReadFrom environment files given settings) : load environment files given = .ok settings := by
  obtain ⟨path, text, hpath, hfile, hread, htext⟩ := h
  simp only [load, hpath, hfile, if_true]
  exact loadFile_eq_ok_iff.2 ⟨text, hread, htext⟩

end Settings

namespace Program

open Settings (ReadFrom)

variable {launch : Launch} {options : Options} {settings : Settings} {input : ByteArray} {seconds : ℕ → Single}

/-! ## The end of the program -/

theorem run_of_error {finish : Finish} (h : start launch = .error finish) : run launch input seconds = finish := by
  simp only [run, h]

/-- with its options and settings the program starts if the log is not too long -/
theorem exists_start (hoptions : Options.ofArguments launch.arguments = .ok options)
    (hload : Settings.load launch.environment launch.files options.config = .ok settings)
    (hlines : settings.maxLogLines < 2 ^ 58) : ∃ session, start launch = .ok (options, session) := by
  -- the command line leaves the length of the log as it is
  have hoverridden : (override options settings).maxLogLines < 2 ^ 58 := hlines
  simp only [start, hoptions, hload, session, Console.ofSettings_eq, if_pos hoverridden]
  exact ⟨_, rfl⟩

/-- with its options and settings the program panics if the log is too long -/
theorem start_of_longer (hoptions : Options.ofArguments launch.arguments = .ok options)
    (hload : Settings.load launch.environment launch.files options.config = .ok settings)
    (hlines : 2 ^ 58 ≤ settings.maxLogLines) : start launch = .error .panicked := by
  have hoverridden : ¬ (override options settings).maxLogLines < 2 ^ 58 := Nat.not_lt.2 hlines
  simp only [start, hoptions, hload, session, Console.ofSettings_eq, if_neg hoverridden]

/-- a program that starts does not end by a panic -/
theorem exitCode_of_started {started : Options × Session Demo.host} (h : start launch = .ok started) :
    (run launch input seconds).exitCode ≠ 101 := by
  obtain ⟨options, session⟩ := started
  simp only [run, h]
  split_ifs
  · split <;> simp
  · simp

/-- a program without options or settings does not end by a panic -/
theorem exitCode_of_error {finish : Finish} (h : start launch = .error finish) : finish.exitCode ≠ 101 ∨
    ∃ options settings, Options.ofArguments launch.arguments = .ok options ∧
      Settings.load launch.environment launch.files options.config = .ok settings := by
  unfold start at h
  split at h
  · rename_i stop _
    cases h
    exact Or.inl (by cases stop <;> decide)
  · split at h
    · cases h
      exact Or.inl (by simp)
    · exact Or.inr ⟨_, _, by assumption, by assumption⟩

/-- the program panics exactly if it reads accepted settings that ask for too long a log -/
theorem exitCode_run_iff : (run launch input seconds).exitCode = 101 ↔
    ∃ options settings, Options.ofArguments launch.arguments = .ok options ∧
      ReadFrom launch.environment launch.files options.config settings ∧ 2 ^ 58 ≤ settings.maxLogLines := by
  constructor
  · intro hcode
    cases hstart : start launch with
    | ok started => exact absurd hcode (exitCode_of_started hstart)
    | error finish =>
      rw [run_of_error hstart] at hcode
      obtain ⟨options, settings, hoptions, hload⟩ := (exitCode_of_error hstart).resolve_left (not_not_intro hcode)
      have hlines : ¬ settings.maxLogLines < 2 ^ 58 := by
        intro hfewer
        obtain ⟨session, hstarts⟩ := exists_start hoptions hload hfewer
        rw [hstart] at hstarts
        cases hstarts
      rcases Settings.readFrom_of_load hload with hread | rfl
      · exact ⟨options, settings, hoptions, hread, Nat.le_of_not_lt hlines⟩
      · exact absurd (by decide) hlines
  · rintro ⟨options, settings, hoptions, hread, hlines⟩
    rw [run_of_error (start_of_longer hoptions (Settings.load_of_readFrom hread) hlines)]
    rfl

/-- **Only the length of the log can make construction panic.** The program ends by a panic exactly if it reads accepted
settings from a file, and they ask for `2 ^ 58` lines or more. Accepted settings make it reserve memory for the lines
and sides they ask for: what the graph reserves is always within the limit, and what the log reserves for fewer lines
is too. -/
theorem panics_iff (launch : Launch) (input : ByteArray) (seconds : ℕ → Single) :
    ((run launch input seconds).exitCode = 101 ↔
      ∃ options settings, Options.ofArguments launch.arguments = .ok options ∧
        ReadFrom launch.environment launch.files options.config settings ∧ 2 ^ 58 ≤ settings.maxLogLines) ∧
    ∀ text settings, Settings.ofText text = .ok settings →
      settings.reservations.map Reservation.bytes =
          [settings.maxLogLines * 32, settings.graphWidth * 4, settings.graphWidth * settings.graphHeight * 4] ∧
        settings.graphWidth * 4 ≤ Reservation.limit ∧
        settings.graphWidth * settings.graphHeight * 4 ≤ Reservation.limit ∧
        (settings.maxLogLines * 32 ≤ Reservation.limit ↔ settings.maxLogLines < 2 ^ 58) := by
  refine ⟨exitCode_run_iff, fun text settings htext => ?_⟩
  have hvalid := (Settings.ofText_eq_ok_iff.1 htext).2
  obtain ⟨⟨-, hwidth⟩, ⟨-, hheight⟩⟩ := hvalid.sides
  have hpixels : settings.graphWidth * settings.graphHeight ≤ 4096 * 4096 := Nat.mul_le_mul hwidth hheight
  refine ⟨hvalid.bytes_reservations, ?_, ?_, ?_⟩ <;> rw [Reservation.limit] <;> omega

/-- the program is started with a file of settings, which holds this text -/
def launchWith (text : String) : Launch where
  arguments := ["--config", "settings.toml"]
  environment := ⟨[]⟩
  files := ⟨fun _ => .ok text, fun _ => true⟩
  terminal := false
  machine := ⟨"unknown", 1, none, "N/A", "unknown"⟩

theorem ofArguments_launchWith (text : String) :
    Options.ofArguments (launchWith text).arguments = .ok { config := some "settings.toml" } := by
  have hparsed : Options.ofArguments ["--config", "settings.toml"] = .ok { config := some "settings.toml" } := by
    decide +kernel
  exact hparsed

theorem readFrom_launchWith_iff {text : String} {settings : Settings} :
    ReadFrom (launchWith text).environment (launchWith text).files (some "settings.toml") settings ↔
      Settings.ofText text = .ok settings := by
  constructor
  · rintro ⟨path, read, -, -, hread, htext⟩
    cases hread
    exact htext
  · intro htext
    have hpath : Settings.file? ⟨[]⟩ (some "settings.toml") = .ok (some "settings.toml") := by decide +kernel
    exact ⟨"settings.toml", text, hpath, rfl, rfl, htext⟩

/-- the longest log that can be reserved, and one of a line more -/
theorem panics_iff_longest :
    let longest : Settings := { maxLogLines := 288230376151711743 }
    Settings.ofText "max_log_lines = 288230376151711743" = .ok longest ∧
      longest.maxLogLines * 32 ≤ Reservation.limit ∧ longest.graphWidth * longest.graphHeight * 4 ≤ Reservation.limit ∧
      (run (launchWith "max_log_lines = 288230376151711743") .empty fun _ => Binary.zero false).exitCode ≠ 101 ∧
      (run (launchWith "max_log_lines = 288230376151711744") .empty fun _ => Binary.zero false).exitCode = 101 := by
  intro longest
  have hlongest : Settings.ofText "max_log_lines = 288230376151711743" = .ok longest := by decide +kernel
  have hmore : Settings.ofText "max_log_lines = 288230376151711744" = .ok { maxLogLines := 288230376151711744 } := by
    decide +kernel
  have hpanics := fun text => (panics_iff (launchWith text) .empty fun _ => Binary.zero false).1
  obtain ⟨-, -, hpicture, hlog⟩ :=
    (panics_iff (launchWith "") .empty fun _ => Binary.zero false).2 _ _ hlongest
  refine ⟨hlongest, hlog.2 (by decide), hpicture, ?_, ?_⟩
  · intro hcode
    obtain ⟨options, settings, hoptions, hread, hlines⟩ := (hpanics _).1 hcode
    rw [ofArguments_launchWith] at hoptions
    cases hoptions
    rw [readFrom_launchWith_iff, hlongest] at hread
    cases hread
    exact absurd hlines (by decide)
  · exact (hpanics _).2 ⟨_, _, ofArguments_launchWith _, readFrom_launchWith_iff.2 hmore, by decide⟩

/-- settings that ask for the greatest log are accepted, and the program panics on them -/
theorem greatest_log_panics :
    let greatest : Settings := { maxLogLines := 9223372036854775807 }
    Settings.ofText "max_log_lines = 9223372036854775807" = .ok greatest ∧
      ¬ greatest.maxLogLines * 32 ≤ Reservation.limit ∧
      run (launchWith "max_log_lines = 9223372036854775807") .empty (fun _ => Binary.zero false) = .panicked := by
  intro greatest
  have hgreatest : Settings.ofText "max_log_lines = 9223372036854775807" = .ok greatest := by decide +kernel
  refine ⟨hgreatest, by decide, ?_⟩
  exact run_of_error (start_of_longer (ofArguments_launchWith _)
    (Settings.load_of_readFrom (readFrom_launchWith_iff.2 hgreatest)) (by decide))

end Program

end HostConsole
