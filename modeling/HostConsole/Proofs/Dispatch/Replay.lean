/-
Printed runs. A run of a handler is printed as a line: the name of its command and the texts of its values, with one
blank between any two of them. The line it came from may have been written in many ways; the printed one is fixed.

Result: `invocations_replay`. In every catalog reached by registering, the printed line of a run leads to this run and
no other: to the same command, on the same values.
-/
import HostConsole.Proofs.Dispatch.Arguments
import HostConsole.Proofs.Value.Display

namespace HostConsole

variable {H : Host}

/-- the line that asks for a run -/
def Run.line (run : Run H) : String :=
  " ".intercalate (run.command.name :: run.values.map Value.display)

namespace Catalog

variable {catalog : Catalog H} {captured : LevelFilter} {text : String} {world : H.World} {command : Command H}
  {words : List String} {parameters : List Parameter} {values : List Value}

/-- the name of a command is a word in lowercase already -/
theorem Sound.lower_name (hs : Sound catalog) (hm : command ∈ catalog.commands) :
    Text.lower command.name = command.name := by
  have hfolded := hs.folded command hm
  rwa [Text.foldName, Text.trim_eq_self (hs.words command hm).2] at hfolded

/-- values read from words are read from their own texts again -/
theorem Reads.display (h : Reads words parameters values) : Reads (values.map Value.display) parameters values := by
  have hlength := h.length_values
  refine ⟨by rw [List.length_map, hlength], List.ext_getElem (by simp [hlength]) fun i hi hi' => ?_⟩
  rw [List.length_map] at hi'
  obtain ⟨word, value, -, hvalue, hread⟩ := h.read?_at (List.getElem?_eq_getElem (hlength ▸ hi'))
  obtain rfl : values[i] = value := Option.some.inj ((List.getElem?_eq_getElem hi').symm.trans hvalue)
  rw [List.getElem_zipWith, List.getElem_map, List.getElem_map, ← ValueType.type_of_read? hread, Value.read?_display]

/-- values read from words have words for texts -/
theorem Reads.isWord_display (h : Reads words parameters values) (hw : ∀ word ∈ words, Text.IsWord word.toList) :
    ∀ word ∈ values.map Value.display, Text.IsWord word.toList := by
  intro shown hshown
  obtain ⟨value, hmem, rfl⟩ := List.mem_map.1 hshown
  obtain ⟨i, hi, rfl⟩ := List.getElem_of_mem hmem
  obtain ⟨word, value, hword, hvalue, hread⟩ := h.read?_at (List.getElem?_eq_getElem (h.length_values ▸ hi))
  obtain rfl : values[i] = value := Option.some.inj ((List.getElem?_eq_getElem hi).symm.trans hvalue)
  exact Value.isWord_display hread (hw word (List.mem_of_getElem? hword))

/-- the printed line of a run calls its command, with the texts of its values -/
theorem calls_line (hs : Sound catalog) {run : Run H} (hcalled : Calls catalog text run.command words)
    (hread : Reads words run.command.parameters run.values) :
    Calls catalog run.line run.command (run.values.map Value.display) := by
  have hwords : ∀ word ∈ words, Text.IsWord word.toList := by
    obtain ⟨first, hw, -⟩ := hcalled.words
    exact fun word hword => Text.isWord_of_mem_words (hw ▸ List.mem_cons_of_mem first hword)
  have hname : Text.IsWord run.command.name.toList := hs.words run.command hcalled.mem
  exact ⟨hcalled.mem, run.command.name, Text.words_intercalate hname (hread.isWord_display hwords),
    hs.lower_name hcalled.mem⟩

/-- **Printed runs replay**: whatever line led to a run, its printed line leads to just this run, under every filter
and in every world; and each value is read back from its text, whether or not a run took it. -/
theorem invocations_replay (calls : List (Call H)) (captured : LevelFilter) (text : String) (world : H.World) :
    let catalog := (empty : Catalog H).registerAll calls
    (∀ run ∈ (catalog.traced.execute captured text (world, [])).world.2, ∀ filter start,
      (catalog.traced.execute filter run.line (start, [])).world.2 = [run]) ∧
      ∀ value : Value, value.type.read? value.display = some value := by
  intro catalog
  have hs : Sound catalog := sound_registerAll sound_empty calls
  refine ⟨fun run hrun filter start => ?_, Value.read?_display⟩
  obtain ⟨words, hcalled, hread⟩ := (mem_traced_iff hs).1 hrun
  have hran : catalog.ran run.line = [run] := ran_of_calls hs (calls_line hs hcalled hread) hread.display
  rw [execute_traced, hran]
  rfl

/-- a line that calls the probe with words that read leads to a run of it -/
theorem exists_run_probe {first : String} (hw : Text.words text = first :: words) (hfirst : Text.lower first = "probe")
    (hread : Reads words probeParameters values) (world : Demo.host.World) :
    ∃ command, command.name = "probe" ∧ (⟨command, values⟩ : Run Demo.host) ∈
      (((empty : Catalog Demo.host).registerAll [probeCall]).traced.execute .off text (world, [])).world.2 := by
  obtain ⟨command, hm, hname, -, hparameters⟩ := exists_probe
  refine ⟨command, hname, (mem_traced_iff (sound_registerAll sound_empty [probeCall])).2 ⟨words, ?_, ?_⟩⟩
  · exact ⟨hm, first, hw, hfirst.trans hname.symm⟩
  · rw [hparameters]
    exact hread

/-- what the handler of the probe gets for the words `+007`, `-00e9`, `TRUE` and `1` -/
def looseValues : List Value :=
  [.integer 7, .float (Binary.zero true), .boolean true, .text "1"]

theorem invocations_replay_probe :
    ∃ run ∈ (((empty : Catalog Demo.host).registerAll [probeCall]).traced.execute .off "\tPROBE +007 -00e9 TRUE \u30001"
        (Demo.World.start, [])).world.2,
      run.line = "probe 7 -0 true 1" ∧
        (((empty : Catalog Demo.host).registerAll [probeCall]).traced.execute (.upTo .trace) "probe 7 -0 true 1"
          (Demo.World.start, [])).world.2 = [run] := by
  have hread : Reads ["+007", "-00e9", "TRUE", "1"] probeParameters looseValues :=
    ⟨rfl, by decide +kernel⟩
  have hwords : Text.words "\tPROBE +007 -00e9 TRUE \u30001" = "PROBE" :: ["+007", "-00e9", "TRUE", "1"] := by
    decide +kernel
  obtain ⟨command, hname, hrun⟩ := exists_run_probe hwords (by decide +kernel) hread Demo.World.start
  have hline : (⟨command, looseValues⟩ : Run Demo.host).line = "probe 7 -0 true 1" := by
    have hshown : " ".intercalate ("probe" :: looseValues.map Value.display) = "probe 7 -0 true 1" := by decide +kernel
    rw [Run.line, hname, hshown]
  have hreplay := (invocations_replay [probeCall] .off _ Demo.World.start).1 _ hrun (.upTo .trace) Demo.World.start
  rw [hline] at hreplay
  exact ⟨_, hrun, hline, hreplay⟩

end Catalog

end HostConsole
