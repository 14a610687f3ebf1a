/-
What a handler is given. Between the declaration of a command and a run of its handler there are four steps: the
declared texts are read as parameters, the parameters are kept with the command, the words of a line are read against
them, and the handler reads the values by place and type.

Result: `arguments_fit`. Whenever a handler runs, its arguments fit what was declared (`Fits`): there is one for each
declared parameter, of the type its declaration names, and reading it as this type gives what its word denotes.
-/
import HostConsole.Proofs.Catalog.Origin
import HostConsole.Proofs.Dispatch.Transaction
import HostConsole.Proofs.Value.Access
import HostConsole.Proofs.Value.Grammar

namespace HostConsole

variable {H : Host}

/-- the argument at a place is of the type declared there, it is what the word there denotes, and the reader of this
type gives it at the index of the place -/
structure FitsAt (declared : String) (word : String) (arguments : Arguments) (i : ℕ) (parameter : Parameter)
    (carried : parameter.type.Carried) : Prop where
  declares : Parameter.Declares declared parameter
  only : ∀ other, Parameter.Declares declared other → other = parameter
  denoted : parameter.type.read? word = some (Value.carrying parameter.type carried)
  value : arguments.values[i]? = some (Value.carrying parameter.type carried)
  type : (arguments.values[i]?).map Value.type = some parameter.type
  read : ∀ index : UInt64, index.toNat = i → arguments.readAs index parameter.type = .ok carried

/-- the arguments are as many as the declared texts and the words, and fit them place by place -/
structure Fits (declared words : List String) (arguments : Arguments) : Prop where
  size : arguments.size = declared.length
  size_words : words.length = declared.length
  fitsAt : ∀ i < declared.length, ∃ text word parameter carried,
    declared[i]? = some text ∧ words[i]? = some word ∧ FitsAt text word arguments i parameter carried

namespace Catalog

variable {catalog : Catalog H} {captured : LevelFilter} {text : String} {world : H.World}
  {words declared : List String} {parameters : List Parameter} {values : List Value}

/-! ## Words and values place by place -/

theorem Reads.length_values (h : Reads words parameters values) : values.length = parameters.length := by
  have hlength := congrArg List.length h.read
  rw [List.length_zipWith, List.length_map, h.length, min_self] at hlength
  exact hlength.symm

/-- the word at a place reads as the value there -/
theorem Reads.read?_at (h : Reads words parameters values) {i : ℕ} {parameter : Parameter}
    (hp : parameters[i]? = some parameter) :
    ∃ word value, words[i]? = some word ∧ values[i]? = some value ∧ parameter.type.read? word = some value := by
  have hi : i < parameters.length := (List.getElem?_eq_some_iff.1 hp).1
  have hw : i < words.length := h.length ▸ hi
  have hv : i < values.length := h.length_values ▸ hi
  have hread := congrArg (·[i]?) h.read
  simp only [List.getElem?_zipWith, List.getElem?_map, hp, List.getElem?_eq_getElem hw,
    List.getElem?_eq_getElem hv, Option.map_some, Option.some.injEq] at hread
  exact ⟨words[i], values[i], List.getElem?_eq_getElem hw, List.getElem?_eq_getElem hv, hread⟩

theorem fitsAt_of_read? (arguments : Arguments) {i : ℕ} {declared word : String} {parameter : Parameter} {value : Value}
    (hd : Parameter.ofDeclaration declared = .ok parameter) (hr : parameter.type.read? word = some value)
    (hv : arguments.values[i]? = some value) : ∃ carried, FitsAt declared word arguments i parameter carried := by
  have htype := ValueType.type_of_read? hr
  obtain ⟨name, type⟩ := parameter
  obtain rfl : value.type = type := htype
  obtain ⟨carried, hcarried⟩ := value.exists_carrying
  have hat : arguments.values[i]? = some (Value.carrying value.type carried) := by rw [hv, ← hcarried]
  refine ⟨carried, Parameter.ofDeclaration_ok_iff.1 hd, fun other hother => ?_, by rw [hr, ← hcarried], hat,
    by rw [hv]; rfl, fun index hindex => ?_⟩
  · have hsame := Parameter.ofDeclaration_ok_iff.2 hother
    rw [hd, Except.ok.injEq] at hsame
    exact hsame.symm
  · exact Arguments.readAs_of_get? (by rw [Arguments.get?, hindex, hat])

/-- values read from words against declared parameters fit the declarations -/
theorem fits_of_reads
    (hd : List.Forall₂ (fun text parameter => Parameter.ofDeclaration text = .ok parameter) declared parameters)
    (h : Reads words parameters values) : Fits declared words ⟨values⟩ := by
  refine ⟨by rw [Arguments.size, h.length_values, hd.length_eq], by rw [h.length, hd.length_eq], fun i hi => ?_⟩
  have hp : i < parameters.length := hd.length_eq ▸ hi
  have hdeclared : Parameter.ofDeclaration declared[i] = .ok parameters[i] := by
    simpa using (List.forall₂_iff_get.1 hd).2 i hi hp
  obtain ⟨word, value, hword, hvalue, hread⟩ := h.read?_at (List.getElem?_eq_getElem hp)
  obtain ⟨carried, hfits⟩ := fitsAt_of_read? ⟨values⟩ hdeclared hread hvalue
  exact ⟨declared[i], word, parameters[i], carried, List.getElem?_eq_getElem hi, hword, hfits⟩

/-! ## Runs of handlers -/

/-- a run that a line leads to is of the command it calls, on the values its words read as -/
theorem Transaction.calls_of_mem {execution : Execution H} {runs : List (Run H)}
    (h : Transaction catalog captured text world execution runs) {run : Run H} (hrun : run ∈ runs) :
    ∃ words, Calls catalog text run.command words ∧ Reads words run.command.parameters run.values := by
  cases h with
  | finished hcalled hread _ =>
    rw [List.mem_singleton.1 hrun]
    exact ⟨_, hcalled, hread⟩
  | failed hcalled hread _ =>
    rw [List.mem_singleton.1 hrun]
    exact ⟨_, hcalled, hread⟩
  | _ => cases hrun

/-- a line that calls a command with words that all read runs its handler once, on the values they read as -/
theorem ran_of_calls (hs : Sound catalog) {command : Command H} (hcalled : Calls catalog text command words)
    (hread : Reads words command.parameters values) : catalog.ran text = [⟨command, values⟩] := by
  have hp : catalog.prepare ⟨command.name, words⟩ = .ok (command, values) := prepare_ok (hcalled.find? hs) hread
  simp [ran, hcalled.read?, hcalled.not_asked hs, hp]

/-- a handler runs exactly if the line calls its command and all words read; it runs on the values they read as -/
theorem mem_traced_iff (hs : Sound catalog) {run : Run H} :
    run ∈ (catalog.traced.execute captured text (world, [])).world.2 ↔
      ∃ words, Calls catalog text run.command words ∧ Reads words run.command.parameters run.values := by
  obtain ⟨execution, runs, h⟩ := exists_transaction catalog captured text world
  obtain ⟨-, hruns⟩ := h.eq_execute hs
  have htraced : (catalog.traced.execute captured text (world, [])).world.2 = runs := by
    rw [execute_traced, hruns]
    rfl
  rw [htraced]
  refine ⟨h.calls_of_mem, ?_⟩
  rintro ⟨words, hcalled, hread⟩
  rw [← hruns, ran_of_calls hs hcalled hread]
  exact List.mem_singleton_self run

/-- **Arguments fit what was declared**: whenever a handler runs, its command was declared by an accepted call, and for
each parameter declared there the handler finds one argument, of the type the declaration names. -/
theorem arguments_fit (calls : List (Call H)) (captured : LevelFilter) (text : String) (world : H.World) :
    let catalog := (empty : Catalog H).registerAll calls
    ∀ run ∈ (catalog.traced.execute captured text (world, [])).world.2,
      ∃ before call after, calls = before ++ call :: after ∧
        (((empty : Catalog H).registerAll before).register call.1 call.2).2 = none ∧
        call.2.Describes call.1 run.command ∧
        ∃ first words, Text.words text = first :: words ∧ Text.lower first = run.command.name ∧
          Fits call.2.parameters words ⟨run.values⟩ := by
  intro catalog run hrun
  obtain ⟨words, hcalled, hread⟩ := (mem_traced_iff (sound_registerAll sound_empty calls)).1 hrun
  obtain ⟨before, call, after, hsplit, hregister⟩ := exists_origin hcalled.mem
  have hd := describes_of_push hregister
  obtain ⟨first, hwords, hname⟩ := hcalled.words
  exact ⟨before, call, after, hsplit, by rw [hregister], hd, first, words, hwords, hname,
    fits_of_reads hd.parameters hread⟩

/-- one call: a free command with a parameter of each type, their tags in several spellings -/
def probeCall : Call Demo.host :=
  (.empty, .free "probe" "" ["n:i64", " x : Double ", "on:BOOL", "_word"] fun _ => pure ())

/-- the parameters of that command -/
def probeParameters : List Parameter :=
  [⟨"n", .integer⟩, ⟨"x", .float⟩, ⟨"on", .boolean⟩, ⟨"_word", .text⟩]

/-- what its handler gets for the words `7`, `0.5`, `TRUE` and `1` -/
def probeValues : List Value :=
  [.integer 7, .float (Binary.div (Binary.ofNat 1) (Binary.ofNat 2)), .boolean true, .text "1"]

theorem forall₂_probeParameters : List.Forall₂ (fun text parameter => Parameter.ofDeclaration text = .ok parameter)
    probeCall.2.parameters probeParameters :=
  .cons (by decide +kernel) (.cons (by decide +kernel) (.cons (by decide +kernel) (.cons (by decide +kernel) .nil)))

theorem valid_probeCall : probeCall.2.Valid probeCall.1 := by
  refine ⟨by decide +kernel, by decide +kernel, fun text ht => ?_, fun kind run h => by cases h⟩
  obtain ⟨parameter, -, hp⟩ := exists_mem_of_forall₂ forall₂_probeParameters ht
  exact ⟨parameter, hp⟩

/-- the command of that call in the catalog of this call alone -/
theorem exists_probe : ∃ command ∈ ((empty : Catalog Demo.host).registerAll [probeCall]).commands,
    command.name = "probe" ∧ command.description = "" ∧ command.parameters = probeParameters := by
  have haccepted : ((empty : Catalog Demo.host).register probeCall.1 probeCall.2).2 = none :=
    accepted_of_valid (by simp [empty]) valid_probeCall
  obtain ⟨command, hd, hr⟩ := exists_push_of_accepted haccepted
  refine ⟨command, by simp [registerAll, hr, push], ?_, hd.description, ?_⟩
  · rw [hd.name]
    decide +kernel
  · refine List.right_unique_forall₂' (fun text p q hp hq => ?_) hd.parameters forall₂_probeParameters
    rw [hp, Except.ok.injEq] at hq
    exact hq

theorem arguments_fit_probe :
    ∃ run ∈ (((empty : Catalog Demo.host).registerAll [probeCall]).traced.execute .off " Probe 7 0.5 TRUE 1 "
        (Demo.World.start, [])).world.2,
      run.values = probeValues ∧ Fits probeCall.2.parameters ["7", "0.5", "TRUE", "1"] ⟨run.values⟩ := by
  have haccepted : ((empty : Catalog Demo.host).register probeCall.1 probeCall.2).2 = none :=
    accepted_of_valid (by simp [empty]) valid_probeCall
  obtain ⟨command, hd, hr⟩ := exists_push_of_accepted haccepted
  have hwords : Text.words " Probe 7 0.5 TRUE 1 " = "Probe" :: ["7", "0.5", "TRUE", "1"] := by decide +kernel
  have hcalled : Calls ((empty : Catalog Demo.host).registerAll [probeCall]) " Probe 7 0.5 TRUE 1 " command
      ["7", "0.5", "TRUE", "1"] := by
    refine ⟨by simp [registerAll, hr, push], "Probe", hwords, ?_⟩
    rw [hd.name]
    decide +kernel
  have hparameters : command.parameters = probeParameters := by
    refine List.right_unique_forall₂' (fun text p q hp hq => ?_) hd.parameters forall₂_probeParameters
    rw [hp, Except.ok.injEq] at hq
    exact hq
  have hread : Reads ["7", "0.5", "TRUE", "1"] command.parameters probeValues := by
    rw [hparameters]
    exact ⟨rfl, by decide +kernel⟩
  have hrun : (⟨command, probeValues⟩ : Run Demo.host) ∈ (((empty : Catalog Demo.host).registerAll
      [probeCall]).traced.execute .off " Probe 7 0.5 TRUE 1 " (Demo.World.start, [])).world.2 :=
    (mem_traced_iff (sound_registerAll sound_empty [probeCall])).2 ⟨_, hcalled, hread⟩
  obtain ⟨before, call, after, hsplit, -, -, first, words, hw, -, hfits⟩ :=
    arguments_fit [probeCall] .off " Probe 7 0.5 TRUE 1 " Demo.World.start _ hrun
  have hcall : call ∈ [probeCall] := by rw [hsplit]; simp
  rw [List.mem_singleton.1 hcall] at hfits
  rw [hwords, List.cons.injEq] at hw
  exact ⟨_, hrun, rfl, by rw [hw.2]; exact hfits⟩

end Catalog

end HostConsole
