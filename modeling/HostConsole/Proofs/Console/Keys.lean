/-
The activation key. The settings check that the key is not blank, but keep it as it is written, and only the pressed key
is trimmed before the two are compared. A trimmed key has no blanks at its ends, and other cases of letters have none
either, so a configured key with blanks at an end is met by no key at all (`same_trim_iff`).

Result: `activated_iff`. In every console that comes about from accepted settings, a key shows or hides the overlay
exactly if the configured key has no blanks at its ends and is the pressed key, trimmed, in some ASCII case. A blank key
never does. `padded_key_inert` is an accepted key that does not activate itself.
-/
import HostConsole.Proofs.Console.Frames
import HostConsole.Proofs.Settings.Reservations
import HostConsole.Proofs.Text.AsciiCase
import HostConsole.Proofs.Text.Spacing

namespace HostConsole

/-! ## Trimming and ASCII case -/

namespace Text

theorem dropWhile_isBlank_map_toLower (s : List Char) :
    (s.map Char.toLower).dropWhile isBlank = (s.dropWhile isBlank).map Char.toLower := by
  have hcomp : isBlank ∘ Char.toLower = isBlank := funext isBlank_toLower
  rw [List.dropWhile_map, hcomp]

theorem trimChars_map_toLower (s : List Char) : trimChars (s.map Char.toLower) = (trimChars s).map Char.toLower := by
  rw [trimChars, trimChars, trimEndChars, trimEndChars, dropWhile_isBlank_map_toLower, ← List.map_reverse,
    dropWhile_isBlank_map_toLower, List.map_reverse]

/-- a text that trimming does not shorten has no blanks at its ends -/
theorem trimChars_eq_self_of_length {s : List Char} (h : (trimChars s).length = s.length) : trimChars s = s := by
  obtain ⟨lead, trail, -, -, hs⟩ := exists_pad s
  have hlength := congrArg List.length hs
  rw [List.length_append, List.length_append] at hlength
  have hlead : lead = [] := List.length_eq_zero_iff.1 (by omega)
  have htrail : trail = [] := List.length_eq_zero_iff.1 (by omega)
  rw [hlead, htrail, List.nil_append, List.append_nil] at hs
  exact hs.symm

/-- a trimmed text is the same as another, but for ASCII case, only if the other has no blanks at its ends -/
theorem same_trim_iff {s t : String} : sameIgnoringAsciiCase (trim s) t = true ↔
    trim t = t ∧ sameIgnoringAsciiCase (trim s) (trim t) = true := by
  refine ⟨fun h => ?_, fun ⟨hself, h⟩ => by rwa [hself] at h⟩
  suffices hself : trim t = t from ⟨hself, by rw [hself]; exact h⟩
  have hsame : (trim s).toList.map Char.toLower = t.toList.map Char.toLower := sameIgnoringAsciiCase_iff.1 h
  have htrimmed : trimChars (trim s).toList = (trim s).toList := by
    have htrim := congrArg String.toList (trim_trim s)
    rwa [trim, String.toList_ofList] at htrim
  have hlower : (trimChars t.toList).map Char.toLower = t.toList.map Char.toLower := by
    rw [← trimChars_map_toLower, ← hsame, trimChars_map_toLower, htrimmed]
  have hlength : (trimChars t.toList).length = t.toList.length := by
    simpa using congrArg List.length hlower
  rw [trim, trimChars_eq_self_of_length hlength, String.ofList_toList]

end Text

namespace Console

variable {H : Host}

/-! ## Keys over time -/

/-- no call changes the activation key -/
theorem toggleKey_step (state : State H) (call : Call H) : (call.step state).2.1.toggleKey = state.1.toggleKey := by
  rcases step_cases state call with ⟨entries, visible, hstep⟩ | ⟨seconds, counters, hstep⟩
  · rw [hstep]
  · rw [hstep]

theorem toggleKey_run (state : State H) (calls : List (Call H)) :
    (run state calls).2.1.toggleKey = state.1.toggleKey := by
  induction calls generalizing state with
  | nil => rfl
  | cons call calls ih => exact (ih _).trans (toggleKey_step state call)

theorem handleKey_eq (console : Console H) (key : String) :
    console.handleKey key =
      if Text.trim console.toggleKey = console.toggleKey ∧
          Text.sameIgnoringAsciiCase (Text.trim key) (Text.trim console.toggleKey) = true then (true, console.toggle)
      else (false, console) := by
  rw [handleKey, isToggleKey]
  exact if_congr Text.same_trim_iff rfl rfl

/-- **Which keys activate.** In every console that comes about from accepted settings, a key shows or hides the overlay,
and is taken, exactly if the configured key has no blanks at its ends and the two are the same once trimmed, in any
ASCII case; every other key changes nothing. So such a configured key activates itself, and a blank key never does. -/
theorem activated_iff {text : String} {settings : Settings} (h : Settings.ofText text = .ok settings) (setup : Setup H)
    (captured : LevelFilter) (terminal : Bool) (journal : Journal) (world : H.World) (calls : List (Call H)) :
    let console := (run ({ withJournal settings setup journal captured terminal with journal }, world) calls).2.1
    let toggled := { console with visible := !console.visible }
    (∀ key, console.handleKey key =
      if Text.trim settings.toggleKey = settings.toggleKey ∧
          Text.sameIgnoringAsciiCase (Text.trim key) (Text.trim settings.toggleKey) = true then (true, toggled)
      else (false, console)) ∧
    (Text.trim settings.toggleKey = settings.toggleKey → console.handleKey settings.toggleKey = (true, toggled)) ∧
    ∀ key, Text.trim key = "" → console.handleKey key = (false, console) := by
  intro console toggled
  have hkey : console.toggleKey = settings.toggleKey := toggleKey_run _ calls
  have hhandle (key : String) : console.handleKey key =
      if Text.trim settings.toggleKey = settings.toggleKey ∧
          Text.sameIgnoringAsciiCase (Text.trim key) (Text.trim settings.toggleKey) = true then (true, toggled)
      else (false, console) := by
    rw [← hkey]
    exact handleKey_eq console key
  refine ⟨hhandle, fun hself => ?_, fun key hblank => ?_⟩
  · rw [hhandle, if_pos ⟨hself, Text.sameIgnoringAsciiCase_iff.2 rfl⟩]
  · have hne := Settings.trim_toggleKey_ne (Settings.check_of_ofText h)
    rw [hhandle, if_neg]
    rintro ⟨-, hsame⟩
    rw [hblank, Text.sameIgnoringAsciiCase_iff] at hsame
    have hnil : (Text.trim settings.toggleKey).toList = [] := List.map_eq_nil_iff.1 hsame.symm
    exact hne (String.toList_eq_nil_iff.1 hnil)

/-- a console whose settings name the key so -/
def keyedConsole (key : String) : Console Demo.host :=
  withJournal { toggleKey := key } Demo.setup (Journal.ofCapacity Journal.defaultCapacity) .off false

theorem activated_iff_tab :
    Settings.ofText "toggle_key = \"Tab\"" = .ok { toggleKey := "Tab" } ∧
      (keyedConsole "Tab").handleKey "\ttAB " = (true, { keyedConsole "Tab" with visible := true }) ∧
      (keyedConsole "Tab").handleKey " \t" = (false, keyedConsole "Tab") := by
  have hsettings : Settings.ofText "toggle_key = \"Tab\"" = .ok { toggleKey := "Tab" } := by decide +kernel
  obtain ⟨hkeys, -, hblank⟩ := activated_iff hsettings Demo.setup .off false (keyedConsole "Tab").journal
    Demo.World.start []
  exact ⟨hsettings, (hkeys "\ttAB ").trans (if_pos (by decide +kernel)), hblank " \t" (by decide +kernel)⟩

/-- an accepted key with blanks at its ends does not even activate itself -/
theorem padded_key_inert :
    ∃ settings console, Settings.ofText "toggle_key = \" F5 \"" = .ok settings ∧ settings.toggleKey = " F5 " ∧
      Text.sameIgnoringAsciiCase (Text.trim " F5 ") (Text.trim settings.toggleKey) = true ∧
      ofSettings settings Demo.setup .off false = .ok console ∧
      console.handleKey settings.toggleKey = (false, console) := by
  have hsettings : Settings.ofText "toggle_key = \" F5 \"" = .ok { toggleKey := " F5 " } := by decide +kernel
  have hconsole : ofSettings { toggleKey := " F5 " } Demo.setup .off false = .ok (keyedConsole " F5 ") := by
    rw [ofSettings_eq, if_pos (by decide)]
    rfl
  have hkey : (keyedConsole " F5 ").isToggleKey " F5 " = false := by decide +kernel
  refine ⟨_, keyedConsole " F5 ", hsettings, rfl, rfl, hconsole, ?_⟩
  rw [handleKey, hkey]
  rfl

end Console

end HostConsole
