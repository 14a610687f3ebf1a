/-
Help and dispatch agree. Help answers from the catalog, with the word as it was typed; dispatch looks the first word of
a line up in lowercase, counts the other words and reads them in order. `Told` says what a page has told of the lines
that start with its word: how many words they need, and as which types these are read.

Result: `help_truthful`. In every catalog reached by registering, a word has no page exactly if each line that starts
with it is refused as an unknown command; and a page that there is has told the truth, and so has the listing.
-/
import HostConsole.Proofs.Catalog.HelpText
import HostConsole.Proofs.Dispatch.Arguments
import HostConsole.Proofs.Dispatch.Spelling

namespace HostConsole.Catalog

open HelpText

variable {H : Host} {catalog : Catalog H} {captured : LevelFilter} {text token : String} {world : H.World}
  {command : Command H} {words : List String}

/-- how many parameters the page of a word shows -/
def shownCount (catalog : Catalog H) (token : String) : ℕ :=
  (parameterLines (catalog.helpPage token)).length

/-- the page of a word, and the listing, tell of a command what holds of every line that starts with the word: what the
page shows are the parameters of the command, and there are as many placeholders behind its name in the listing; this
is the one count of words with which a line passes; the handler runs on what the words read as, as the types shown;
and a word reported as bad is the first that does not read as the type shown in its place -/
structure Told (catalog : Catalog H) (token : String) (command : Command H) : Prop where
  shown : (parameterLines (catalog.helpPage token)).map shown? = command.parameters.map some
  listed : ∃ earlier later after, catalog.commands.toList = earlier ++ command :: later ∧
    catalog.helpListing.toList =
      earlier.flatMap (fun other => other.helpLine.toList ++ ['\n']) ++ (command.name.toList ++ after) ∧
    placeholders after = catalog.shownCount token
  rightCount : ∀ text words, Text.words text = token :: words → words.length = catalog.shownCount token →
    ∀ captured world name expected received,
      (catalog.execute captured text world).outcome ≠ .error (.wrongCount name expected received)
  wrongCount : ∀ text words, Text.words text = token :: words → words.length ≠ catalog.shownCount token →
    ∀ captured world, (catalog.execute captured text world).outcome =
      .error (.wrongCount command.name (catalog.shownCount token) words.length)
  runs : ∀ text words, Text.words text = token :: words → ∀ captured world run,
    run ∈ (catalog.traced.execute captured text (world, [])).world.2 ↔
      run.command = command ∧ Reads words command.parameters run.values
  reported : ∀ text words, Text.words text = token :: words → ∀ captured world name bad,
    (catalog.execute captured text world).outcome = .error (.badArgument name bad) ↔
      name = command.name ∧ words.length = catalog.shownCount token ∧
        ∃ i parameter, (parameterLines (catalog.helpPage token))[i]?.bind shown? = some parameter ∧
          Parameter.FirstUnread words command.parameters i bad.word parameter ∧
          bad = ⟨i + 1, bad.word, parameter.type⟩

/-! ## One look-up -/

/-- a word finds on a page what it finds in front of a line -/
theorem calls_of_find? (hs : Sound catalog) (ht : Text.IsWord token.toList) (hf : catalog.find? token = some command)
    (hw : Text.words text = token :: words) : Calls catalog text command words := by
  obtain ⟨hm, hname⟩ := (find?_eq_some_iff hs).1 hf
  rw [Text.foldName, Text.trim_eq_self ht.2] at hname
  exact ⟨hm, token, hw, hname.symm⟩

/-- a word that finds nothing calls nothing -/
theorem execute_of_find?_eq_none (ht : Text.IsWord token.toList) (hne : Text.lower token ≠ helpWord)
    (hf : catalog.find? token = none) (hw : Text.words text = token :: words) (captured : LevelFilter)
    (world : H.World) :
    (catalog.execute captured text world).outcome = .error (.unknownCommand (Text.lower token)) := by
  have hnone : catalog.find? (Text.lower token) = none := by
    rw [← hf, find?, find?, Text.foldName_lower ht.2, Text.foldName, Text.trim_eq_self ht.2]
  have hp : catalog.prepare ⟨Text.lower token, words⟩ = .error (.unknownCommand (Text.lower token)) := by
    simp [prepare, hnone]
  rw [(execute_of_error (read?_of_words hw) hne hp).1]

/-- a word has no page exactly if every line that starts with it is refused as an unknown command -/
theorem notFound_iff (hs : Sound catalog) (ht : Text.IsWord token.toList) (hne : Text.lower token ≠ helpWord)
    (captured : LevelFilter) (world : H.World) :
    catalog.helpPage token = notFound token ↔ ∀ text words, Text.words text = token :: words →
      ∃ name, (catalog.execute captured text world).outcome = .error (.unknownCommand name) := by
  rw [helpPage_eq_notFound_iff ht]
  constructor
  · exact fun hf text words hw => ⟨_, execute_of_find?_eq_none ht hne hf hw captured world⟩
  · intro h
    rw [Option.eq_none_iff_forall_ne_some]
    intro command hf
    -- the word alone is a line, and its command answers it
    have hw : Text.words token = [token] := Text.words_of_isWord ht
    obtain ⟨name, hunknown⟩ := h token [] hw
    obtain ⟨runs, hanswer, -⟩ := execute_of_calls hs (calls_of_find? hs ht hf hw) captured world
    rw [hunknown] at hanswer
    cases hanswer

/-! ## What a page tells -/

/-- a page that there is has told the truth -/
theorem told_of_find? (hs : Sound catalog) (ht : Text.IsWord token.toList) (hf : catalog.find? token = some command) :
    Told catalog token command := by
  have hm : command ∈ catalog.commands := ((find?_eq_some_iff hs).1 hf).1
  have hidentifiers := hs.identifiers command hm
  have hshown : (parameterLines (catalog.helpPage token)).map shown? = command.parameters.map some := by
    rw [helpPage_of_find? hf]
    exact Command.shown_page hidentifiers
  have hcount : catalog.shownCount token = command.parameters.length := by
    simpa [shownCount] using congrArg List.length hshown
  have hcalls : ∀ text words, Text.words text = token :: words → Calls catalog text command words :=
    fun _ _ => calls_of_find? hs ht hf
  refine ⟨hshown, ?_, ?_, ?_, ?_, ?_⟩
  · rw [hcount]
    exact exists_listed hm hidentifiers
  · intro text words hw hright captured world name expected received hwrong
    obtain ⟨runs, hanswer, -⟩ := execute_of_calls hs (hcalls text words hw) captured world
    rw [hwrong] at hanswer
    cases hanswer with
    | wrongCount hmiscounted => exact hmiscounted (hright.trans hcount)
  · intro text words hw hwrong captured world
    rw [hcount] at hwrong ⊢
    exact congrArg Execution.outcome ((Transaction.wrongCount (hcalls text words hw) hwrong).eq_execute hs).1
  · intro text words hw captured world run
    rw [mem_traced_iff hs]
    constructor
    · rintro ⟨others, hcalled, hread⟩
      obtain ⟨hcommand, rfl⟩ := (hcalls text words hw).unique hs hcalled
      exact ⟨hcommand, hcommand ▸ hread⟩
    · rintro ⟨hcommand, hread⟩
      exact ⟨words, hcommand ▸ hcalls text words hw, hcommand ▸ hread⟩
  · intro text words hw captured world name bad
    rw [hcount]
    constructor
    · intro hbad
      obtain ⟨runs, hanswer, -⟩ := execute_of_calls hs (hcalls text words hw) captured world
      rw [hbad] at hanswer
      cases hanswer with
      | @badArgument i word parameter hright hfirst =>
        have hat := congrArg (·[i]?) hshown
        simp only [List.getElem?_map, hfirst.parameterAt, Option.map_some] at hat
        obtain ⟨line, hline, hparameter⟩ := Option.map_eq_some_iff.1 hat
        exact ⟨rfl, hright, i, parameter, by rw [hline, Option.bind_some, hparameter], hfirst, rfl⟩
    · rintro ⟨rfl, hright, i, parameter, -, hfirst, hbad⟩
      rw [hbad]
      exact congrArg Execution.outcome ((Transaction.badArgument (hcalls text words hw) hright hfirst).eq_execute hs).1

/-- **Help tells the truth about dispatch**: asking shows the listing, or the page of the first word asked for; there is
no page exactly if each line that starts with the word is refused as an unknown command; and what page and listing tell
of the word is so. -/
theorem help_truthful (calls : List (Call H)) {token : String} (ht : Text.IsWord token.toList)
    (hne : Text.lower token ≠ helpWord) :
    let catalog := (empty : Catalog H).registerAll calls
    (∀ text first, Text.words text = [first] → Text.lower first = helpWord → ∀ captured world,
      catalog.execute captured text world = ⟨.ok .help, world, [⟨.info, catalog.helpListing⟩]⟩) ∧
      (∀ text first rest, Text.words text = first :: token :: rest → Text.lower first = helpWord → ∀ captured world,
        catalog.execute captured text world = ⟨.ok .help, world, [⟨.info, catalog.helpPage token⟩]⟩) ∧
      (∀ captured world, catalog.helpPage token = notFound token ↔ ∀ text words, Text.words text = token :: words →
        ∃ name, (catalog.execute captured text world).outcome = .error (.unknownCommand name)) ∧
      (catalog.helpPage token ≠ notFound token →
        ∃ command ∈ catalog.commands, command.name = Text.lower token ∧ Told catalog token command) := by
  intro catalog
  have hs : Sound catalog := sound_registerAll sound_empty calls
  refine ⟨?_, ?_, notFound_iff hs ht hne, fun hpage => ?_⟩
  · exact fun text first hw hasked captured world => ((Transaction.help hw hasked).eq_execute hs).1
  · exact fun text first rest hw hasked captured world => ((Transaction.help hw hasked).eq_execute hs).1
  · rw [ne_eq, helpPage_eq_notFound_iff ht, ← ne_eq, Option.ne_none_iff_exists'] at hpage
    obtain ⟨command, hf⟩ := hpage
    obtain ⟨hm, hname⟩ := (find?_eq_some_iff hs).1 hf
    refine ⟨command, hm, ?_, told_of_find? hs ht hf⟩
    rw [hname, Text.foldName, Text.trim_eq_self ht.2]

theorem help_truthful_probe :
    Text.IsWord "Probe".toList ∧ Text.lower "Probe" ≠ helpWord ∧
      ((empty : Catalog Demo.host).registerAll [probeCall]).helpPage "Probe" =
        "probe\n\n\nArguments:\n- n: int\n- x: float\n- on: bool\n- _word: string" ∧
      ∃ command, command.name = "probe" ∧ command.parameters = probeParameters ∧
        Told ((empty : Catalog Demo.host).registerAll [probeCall]) "Probe" command := by
  have hword : Text.IsWord "Probe".toList := by decide
  have hlower : Text.lower "Probe" = "probe" := by decide +kernel
  have hfolded : Text.foldName "Probe" = "probe" := by decide +kernel
  have hne : Text.lower "Probe" ≠ helpWord := by
    rw [hlower]
    decide
  have hs : Sound ((empty : Catalog Demo.host).registerAll [probeCall]) := sound_registerAll sound_empty [probeCall]
  obtain ⟨command, hm, hname, hdescription, hparameters⟩ := exists_probe
  have hf : ((empty : Catalog Demo.host).registerAll [probeCall]).find? "Probe" = some command :=
    (find?_eq_some_iff hs).2 ⟨hm, hname.trans hfolded.symm⟩
  have hpage : ((empty : Catalog Demo.host).registerAll [probeCall]).helpPage "Probe" =
      "probe\n\n\nArguments:\n- n: int\n- x: float\n- on: bool\n- _word: string" := by
    rw [helpPage_of_find? hf, hname, hdescription, Command.helpParameters, hparameters]
    decide +kernel
  have hfound : ((empty : Catalog Demo.host).registerAll [probeCall]).helpPage "Probe" ≠ notFound "Probe" := by
    rw [hpage]
    decide +kernel
  obtain ⟨other, hother, hsame, htold⟩ := (help_truthful [probeCall] hword hne).2.2.2 hfound
  have hsingle : other = command := by
    have hfind : ((empty : Catalog Demo.host).registerAll [probeCall]).find? "Probe" = some other :=
      (find?_eq_some_iff hs).2 ⟨hother, (hsame.trans hlower).trans hfolded.symm⟩
    exact Option.some.inj (hfind.symm.trans hf)
  exact ⟨hword, hne, hpage, command, hname, hparameters, hsingle ▸ htold⟩

end HostConsole.Catalog
