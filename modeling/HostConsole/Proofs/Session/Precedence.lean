/-
Which lines go to a command and which to the session. The first word of a line names its command, but a session looks
up the whole line before it takes it for a word of its own. So a command goes first when its name stands alone, and in
front of arguments it goes first over the words that end the session and the one that shows or hides the overlay, as
none of them holds a blank. It does not go first over an activation key of several words.

Result: `called_submitted`. A line that calls a command never ends the session, and it is submitted once, unless it has
arguments and is the activation key as a whole; then it shows or hides the overlay and nothing is submitted.
`toggled_by_call` is a line of that kind, under settings that are accepted.
-/
import HostConsole.Proofs.Dispatch.Spelling
import HostConsole.Proofs.Session.Printed
import HostConsole.Settings.Decode

namespace HostConsole

variable {H : Host} {catalog : Catalog H} {console : Console H} {command : Command H} {line : String}
  {rest : List String}

namespace Catalog

/-- a line of one word is looked up by the session as its command is looked up -/
theorem contains_of_calls_alone (hs : Sound catalog) (h : Calls catalog line command []) :
    catalog.contains (Text.trim line) = true := by
  obtain ⟨first, hwords, hname⟩ := h.words
  have hword : Text.IsWord first.toList := Text.isWord_of_mem_words (by rw [hwords]; exact List.mem_singleton_self _)
  have hfold : Text.foldName first = command.name := by rw [Text.foldName, Text.trim_eq_self hword.2, hname]
  have hfound : catalog.find? first = some command := (find?_eq_some_iff hs).2 ⟨h.mem, hfold.symm⟩
  rw [contains, Text.trim_eq_of_words hwords, hfound]
  rfl

/-- the words of a line with arguments do not make one word -/
theorem Calls.not_isWord_trim (h : Calls catalog line command rest) (hrest : rest ≠ []) :
    ¬ Text.IsWord (Text.trim line).toList := by
  intro hword
  obtain ⟨first, hwords, -⟩ := h.words
  have hone := Text.words_of_isWord hword
  rw [Text.words_trim, hwords, List.cons.injEq] at hone
  exact hrest hone.2

/-- what is no word is the name of no command -/
theorem contains_of_not_isWord (hs : Sound catalog) {text : String} (h : ¬ Text.IsWord (Text.trim text).toList) :
    catalog.contains text = false := by
  rw [contains, Option.isSome_eq_false_iff, Option.isNone_iff_eq_none, Option.eq_none_iff_forall_ne_some]
  intro command hfound
  obtain ⟨hmem, hname⟩ := (find?_eq_some_iff hs).1 hfound
  have hword := hs.words command hmem
  rw [hname, Text.foldName, Text.toList_lower] at hword
  exact h (Text.isWord_of_lowerChars hword)

end Catalog

namespace Console

open Catalog

/-- the line as a whole is the activation key, and it has more than one word -/
def TakesAsKey (console : Console H) (line : String) (rest : List String) : Prop :=
  rest ≠ [] ∧ Text.sameIgnoringAsciiCase (Text.trim line) console.toggleKey = true

instance (console : Console H) (line : String) (rest : List String) : Decidable (console.TakesAsKey line rest) :=
  inferInstanceAs (Decidable (_ ∧ _))

/-- the words of the session are words, so a line that is none is not one of them -/
theorem not_sessionWord {text : String} (h : ¬ Text.IsWord text.toList) :
    Session.isQuitWord text = false ∧ Text.sameIgnoringAsciiCase text Session.toggleWord = false := by
  have hdiffers : ∀ word : String, Text.IsWord word.toList → Text.sameIgnoringAsciiCase text word = false :=
    fun word hword => Bool.eq_false_iff.2 fun hsame => h ((Text.isWord_iff_of_same hsame).2 hword)
  refine ⟨?_, hdiffers _ (by decide)⟩
  rw [Session.isQuitWord, List.any_eq_false]
  intro word hword
  have hall : ∀ word ∈ Session.quitWords, Text.IsWord word.toList := by decide
  rw [hdiffers word (hall word hword)]
  exact Bool.false_ne_true

/-- what a session makes of a line that calls a command -/
theorem reading_of_calls (hs : Sound console.catalog) (h : Calls console.catalog line command rest) :
    console.reading line = if console.TakesAsKey line rest then .toggling else .submitted := by
  by_cases hrest : rest = []
  · subst hrest
    have hkey : ¬ console.TakesAsKey line [] := fun hkey => hkey.1 rfl
    rw [reading, if_pos (contains_of_calls_alone hs h), if_neg hkey]
  · have hword := h.not_isWord_trim hrest
    have hunknown : console.catalog.contains (Text.trim line) = false :=
      contains_of_not_isWord hs (by rw [Text.trim_trim]; exact hword)
    obtain ⟨hquit, htoggle⟩ := not_sessionWord hword
    simp only [reading, hunknown, hquit, Session.isToggleWord, htoggle, isToggleKey, Text.trim_trim, TakesAsKey,
      ne_eq, hrest, not_false_eq_true, true_and, Bool.false_or, Bool.false_eq_true, if_false]

end Console

namespace Session

open Catalog

/-- **A line that calls a command is submitted**, once, and the session goes on, whatever word of the session the line
is. Only a line with arguments that is the activation key as a whole is not submitted: it toggles the overlay. -/
theorem called_submitted (calls : List (Call H)) (source : Source H) (session : Session H)
    (hcatalog : session.console.catalog = (empty : Catalog H).registerAll calls)
    (hcalled : Calls session.console.catalog line command rest) :
    session.handle source line =
      if session.console.TakesAsKey line rest then (.proceed, (session.toggle.frame source).flush)
      else (.proceed, ((session.submit line).frame source).flush) := by
  have hs : Sound session.console.catalog := hcatalog ▸ sound_registerAll sound_empty calls
  rw [handle_eq, Console.reading_of_calls hs hcalled]
  split_ifs <;> rfl

/-- one call: a free command with the name of a word of the session -/
def exitCall : Call Demo.host :=
  (.empty, .free "exit" "" ["when"] fun _ => pure ())

theorem valid_exitCall : exitCall.2.Valid exitCall.1 := by
  refine ⟨by decide +kernel, by decide +kernel, fun text ht => ?_, fun kind run h => by cases h⟩
  rw [List.mem_singleton.1 ht]
  exact ⟨⟨"when", .text⟩, by decide +kernel⟩

/-- a session of a console with that command -/
def exitSession (settings : Settings) : Session Demo.host :=
  start (.withJournal settings (Setup.empty.command exitCall.2) (Journal.ofCapacity settings.maxLogLines) .off false)
    Demo.World.start

theorem catalog_exitSession (settings : Settings) :
    (exitSession settings).console.catalog = (empty : Catalog Demo.host).registerAll [exitCall] :=
  build_eq_registerAll .empty [exitCall.2]

/-- the first word of a line calls that command in any case of its letters -/
theorem exists_calls_exit (settings : Settings) (line first : String) (rest : List String)
    (hwords : Text.words line = first :: rest) (hfirst : Text.lower first = "exit") :
    ∃ command, Calls (exitSession settings).console.catalog line command rest := by
  have haccepted : ((empty : Catalog Demo.host).register exitCall.1 exitCall.2).2 = none :=
    accepted_of_valid (by simp [empty]) valid_exitCall
  obtain ⟨command, hd, hr⟩ := exists_push_of_accepted haccepted
  have hkey : exitCall.2.key = "exit" := by decide +kernel
  refine ⟨command, ?_, first, hwords, by rw [hfirst, hd.name, hkey]⟩
  rw [catalog_exitSession]
  simp [registerAll, hr, push]

theorem called_submitted_exit :
    ∃ command, Calls (exitSession {}).console.catalog " EXIT now" command ["now"] ∧
      (exitSession {}).handle briefSource " EXIT now" =
        (.proceed, (((exitSession {}).submit " EXIT now").frame briefSource).flush) := by
  obtain ⟨command, hcalled⟩ :=
    exists_calls_exit {} " EXIT now" "EXIT" ["now"] (by decide +kernel) (by decide +kernel)
  refine ⟨command, hcalled, ?_⟩
  rw [called_submitted [exitCall] briefSource _ (catalog_exitSession {}) hcalled, if_neg (by decide +kernel)]

/-- a line that calls a command shows the overlay instead, under settings that are accepted -/
theorem toggled_by_call :
    ∃ settings command, Settings.ofText "toggle_key = \"exit now\"" = .ok settings ∧
      Calls (exitSession settings).console.catalog "exit now" command ["now"] ∧
      (exitSession settings).handle briefSource "exit now" =
        (.proceed, ((exitSession settings).toggle.frame briefSource).flush) ∧
      ((exitSession settings).handle briefSource "exit now").2.console.visible = true ∧
      ((exitSession settings).submit "exit now").console.visible = false := by
  have hsettings : Settings.ofText "toggle_key = \"exit now\"" = .ok { toggleKey := "exit now" } := by decide +kernel
  obtain ⟨command, hcalled⟩ := exists_calls_exit { toggleKey := "exit now" } "exit now" "exit" ["now"]
    (by decide +kernel) (by decide +kernel)
  have hs : Sound (exitSession { toggleKey := "exit now" }).console.catalog :=
    catalog_exitSession _ ▸ sound_registerAll sound_empty [exitCall]
  have hkey : (exitSession { toggleKey := "exit now" }).console.TakesAsKey "exit now" ["now"] :=
    ⟨by decide, by decide +kernel⟩
  have hhandle : (exitSession { toggleKey := "exit now" }).handle briefSource "exit now" =
      (.proceed, ((exitSession { toggleKey := "exit now" }).toggle.frame briefSource).flush) := by
    rw [handle_eq, Console.reading_of_calls hs hcalled, if_pos hkey]
  refine ⟨_, command, hsettings, hcalled, hhandle, ?_, rfl⟩
  rw [hhandle]
  rfl

end Session

end HostConsole
