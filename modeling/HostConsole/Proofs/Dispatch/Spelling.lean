/-
Which lines reach a command. The name of a command is what the host wrote, trimmed and in lowercase; a line is
addressed to it when its first word is that name with any ASCII letter in either case, whatever blanks stand around and
between the words. `Answer` says what such a line comes to: every case is about this command and carries its name.

Result: `reached_in_every_spelling`. Once a declaration is accepted, its command is found under every spelling of its
name, and a line that starts with one is answered by this command, after any further calls to register.
-/
import HostConsole.Proofs.Catalog.Origin
import HostConsole.Proofs.Dispatch.Transaction
import HostConsole.Proofs.Text.AsciiCase
import HostConsole.Proofs.Text.Spacing

namespace HostConsole

variable {H : Host}

/-! ## Spellings of a name -/

namespace Declaration

/-- the name as the host wrote it without the blanks around it, with any ASCII letter in either case -/
def SpelledAs (declaration : Declaration H) (name : String) : Prop :=
  Text.sameIgnoringAsciiCase name (Text.trim declaration.name) = true

instance (declaration : Declaration H) : DecidablePred declaration.SpelledAs :=
  fun name => inferInstanceAs (Decidable (Text.sameIgnoringAsciiCase name (Text.trim declaration.name) = true))

theorem SpelledAs.lower_eq_key {declaration : Declaration H} {name : String} (h : declaration.SpelledAs name) :
    Text.lower name = declaration.key :=
  Text.lower_eq_of_same h

/-- if the folded name is a word, so is every spelling of the name -/
theorem SpelledAs.isWord {declaration : Declaration H} {name : String} (h : declaration.SpelledAs name)
    (hk : Text.IsWord declaration.key.toList) : Text.IsWord name.toList := by
  refine (Text.isWord_iff_of_same h).2 ?_
  rw [key, Text.foldName, Text.toList_lower] at hk
  exact Text.isWord_of_lowerChars hk

end Declaration

namespace Catalog

variable {catalog : Catalog H} {captured : LevelFilter} {text : String} {world : H.World}
  {command other : Command H} {rest words : List String} {declaration : Declaration H}

/-! ## Lines addressed to a command -/

/-- what a line with the name of a command in front and these words after it comes to, with the runs of handlers -/
inductive Answer (command : Command H) (words : List String) : Except Fault Outcome → List (Run H) → Prop
  | wrongCount (count : words.length ≠ command.parameters.length) :
      Answer command words (.error (.wrongCount command.name command.parameters.length words.length)) []
  | badArgument {i : ℕ} {word : String} {parameter : Parameter} (count : words.length = command.parameters.length)
      (first : Parameter.FirstUnread words command.parameters i word parameter) :
      Answer command words (.error (.badArgument command.name ⟨i + 1, word, parameter.type⟩)) []
  | finished {values : List Value} (read : Reads words command.parameters values) :
      Answer command words (.ok (.invoked command.name)) [⟨command, values⟩]
  | failed {values : List Value} (read : Reads words command.parameters values) (message : String) :
      Answer command words (.error (.failed command.name message)) [⟨command, values⟩]

/-- a line calls one command, with one list of words -/
theorem Calls.unique (hs : Sound catalog) (h : Calls catalog text command rest) (h' : Calls catalog text other words) :
    other = command ∧ words = rest := by
  have hline := h.read?
  rw [h'.read?, Option.some.injEq, Line.mk.injEq] at hline
  have hfound := h'.find? hs
  rw [hline.1, h.find? hs, Option.some.injEq] at hfound
  exact ⟨hfound.symm, hline.2⟩

/-- whatever a line that calls a command leads to is an answer of this command -/
theorem Transaction.answer {execution : Execution H} {runs : List (Run H)} (hs : Sound catalog)
    (hcalled : Calls catalog text command rest) (h : Transaction catalog captured text world execution runs) :
    Answer command rest execution.outcome runs := by
  obtain ⟨first, hwords, hname⟩ := hcalled.words
  cases h with
  | blank hw => rw [hwords] at hw; cases hw
  | help hw hasked =>
    rw [hwords, List.cons.injEq] at hw
    rw [← hw.1, hname] at hasked
    exact absurd hasked (hcalled.not_asked hs)
  | unknownCommand hw _ hunknown =>
    rw [hwords, List.cons.injEq] at hw
    rw [← hw.1, hname] at hunknown
    exact absurd rfl (hunknown command hcalled.mem)
  | wrongCount hcalled' hcount =>
    obtain ⟨rfl, rfl⟩ := hcalled.unique hs hcalled'
    exact .wrongCount hcount
  | badArgument hcalled' hcount hfirst =>
    obtain ⟨rfl, rfl⟩ := hcalled.unique hs hcalled'
    exact .badArgument hcount hfirst
  | finished hcalled' hread _ =>
    obtain ⟨rfl, rfl⟩ := hcalled.unique hs hcalled'
    exact .finished hread
  | failed hcalled' hread _ =>
    obtain ⟨rfl, rfl⟩ := hcalled.unique hs hcalled'
    exact .failed hread _

/-- a line that calls a command is answered by it, and the traced host sees the runs of that answer -/
theorem execute_of_calls (hs : Sound catalog) (hcalled : Calls catalog text command rest) (captured : LevelFilter)
    (world : H.World) : ∃ runs, Answer command rest (catalog.execute captured text world).outcome runs ∧
      ∀ earlier, catalog.traced.execute captured text (world, earlier) =
        (catalog.execute captured text world).traced (earlier ++ runs) := by
  obtain ⟨execution, runs, h⟩ := exists_transaction catalog captured text world
  obtain ⟨rfl, hruns⟩ := h.eq_execute hs
  exact ⟨runs, h.answer hs hcalled, fun earlier => by rw [execute_traced, hruns]⟩

/-- a spelling of the name calls the command, whatever blanks are around and between the words -/
theorem calls_of_spelling (hs : Sound catalog) (hm : command ∈ catalog.commands) (hk : command.name = declaration.key)
    {name lead trail : String} {rest : List (String × String)} (hname : declaration.SpelledAs name)
    (hl : Text.AllBlank lead.toList) (ht : Text.AllBlank trail.toList)
    (hr : ∀ p ∈ rest, Text.IsGap p.1.toList ∧ Text.IsWord p.2.toList) :
    Calls catalog (Text.spaced lead name rest trail) command (rest.map Prod.snd) := by
  have hword : Text.IsWord name.toList := hname.isWord (by rw [← hk]; exact hs.words command hm)
  exact ⟨hm, name, Text.words_spaced hl hword hr ht, by rw [hname.lower_eq_key, hk]⟩

/-- a spelling of the name finds the command, whatever blanks are around it -/
theorem find?_of_spelling (hs : Sound catalog) (hm : command ∈ catalog.commands) (hk : command.name = declaration.key)
    {name lead trail : String} (hname : declaration.SpelledAs name) (hl : Text.AllBlank lead.toList)
    (ht : Text.AllBlank trail.toList) : catalog.find? (lead ++ name ++ trail) = some command := by
  have hword : Text.IsWord name.toList := hname.isWord (by rw [← hk]; exact hs.words command hm)
  refine (find?_eq_some_iff hs).2 ⟨hm, ?_⟩
  rw [Text.foldName_pad hl hword ht, hname.lower_eq_key, hk]

/-- **Every command is reached under every spelling of its name**: look-up finds it, and a line that starts with the
name is answered by it, whatever was registered before and after. -/
theorem reached_in_every_spelling (before after : List (Call H)) (call : Call H)
    (accepted : (((empty : Catalog H).registerAll before).register call.1 call.2).2 = none) :
    let catalog := (empty : Catalog H).registerAll (before ++ call :: after)
    ∃ command, catalog.commands[((empty : Catalog H).registerAll before).size]? = some command ∧
      call.2.Describes call.1 command ∧
      ∀ name, call.2.SpelledAs name → ∀ lead trail, Text.AllBlank lead.toList → Text.AllBlank trail.toList →
        catalog.find? (lead ++ name ++ trail) = some command ∧
        catalog.contains (lead ++ name ++ trail) = true ∧
        ∀ rest, (∀ p ∈ rest, Text.IsGap p.1.toList ∧ Text.IsWord p.2.toList) →
          let text := Text.spaced lead name rest trail
          Calls catalog text command (rest.map Prod.snd) ∧
          ∀ captured world, ∃ runs,
            Answer command (rest.map Prod.snd) (catalog.execute captured text world).outcome runs ∧
              ∀ earlier, catalog.traced.execute captured text (world, earlier) =
                (catalog.execute captured text world).traced (earlier ++ runs) := by
  intro catalog
  obtain ⟨command, hd, hr⟩ := exists_push_of_accepted accepted
  have hplace : catalog.commands[((empty : Catalog H).registerAll before).size]? = some command := by
    simp only [catalog, registerAll_append, registerAll_cons, hr]
    exact getElem?_registerAll (by simp [push, size]) after
  have hs : Sound catalog := sound_registerAll sound_empty _
  have hm : command ∈ catalog.commands := Array.mem_of_getElem? hplace
  refine ⟨command, hplace, hd, fun name hname lead trail hl ht => ?_⟩
  have hfound := find?_of_spelling hs hm hd.name hname hl ht
  refine ⟨hfound, by rw [contains, hfound]; rfl, fun rest hrest => ?_⟩
  have hcalled := calls_of_spelling hs hm hd.name hname hl ht hrest
  exact ⟨hcalled, execute_of_calls hs hcalled⟩

/-- one call: a free command whose name has a sigma to decide and blanks around it -/
def levelCall : Call Demo.host :=
  (.empty, .free " ΛόγοΣ-Level\t" "" ["n:int"] fun _ => pure ())

theorem valid_levelCall : levelCall.2.Valid levelCall.1 := by
  refine ⟨by decide +kernel, by decide +kernel, ?_, ?_⟩
  · intro text ht
    rw [List.mem_singleton.1 ht]
    exact ⟨⟨"n", .integer⟩, by decide +kernel⟩
  · rintro kind run h
    cases h

theorem reached_in_every_spelling_level :
    ((empty : Catalog Demo.host).register levelCall.1 levelCall.2).2 = none ∧
      ∃ command, command.name = "λόγος-level" ∧
        ((empty : Catalog Demo.host).registerAll [levelCall]).find? "\u3000ΛόγοΣ-LEVEL " = some command ∧
        Calls ((empty : Catalog Demo.host).registerAll [levelCall]) "\u3000ΛόγοΣ-LEVEL \t7 " command ["7"] := by
  have haccepted : ((empty : Catalog Demo.host).register levelCall.1 levelCall.2).2 = none :=
    accepted_of_valid (by simp [empty]) valid_levelCall
  obtain ⟨command, -, hd, h⟩ := reached_in_every_spelling [] [] levelCall haccepted
  obtain ⟨hfound, -, hlines⟩ := h "ΛόγοΣ-LEVEL" (by decide +kernel) "\u3000" " " (by decide) (by decide)
  obtain ⟨hcalled, -⟩ := hlines [(" \t", "7")] (by decide)
  have hname : command.name = "λόγος-level" := by
    rw [hd.name]
    decide +kernel
  exact ⟨haccepted, command, hname, hfound, hcalled⟩

end Catalog

end HostConsole
