/-
Blanks at the ends of a text and the words between them. Trimming changes nothing in a text without blanks, and every
word of a text is such a text, and not empty.
-/
import HostConsole.Text.Blank

namespace HostConsole.Text

/-! ## Trimming -/

theorem dropWhile_isBlank_eq_self {s : List Char} (h : ∀ c ∈ s, isBlank c = false) : s.dropWhile isBlank = s := by
  cases s with
  | nil => rfl
  | cons c rest => simp [h c List.mem_cons_self]

theorem trimChars_eq_self {s : List Char} (h : ∀ c ∈ s, isBlank c = false) : trimChars s = s := by
  have hr : ∀ c ∈ s.reverse, isBlank c = false := fun c hc => h c (List.mem_reverse.1 hc)
  simp only [trimChars, trimEndChars, dropWhile_isBlank_eq_self h, dropWhile_isBlank_eq_self hr, List.reverse_reverse]

theorem trim_eq_self {s : String} (h : ∀ c ∈ s.toList, isBlank c = false) : trim s = s := by
  simp only [trim, trimChars_eq_self h, String.ofList_toList]

/-! ## Words -/

/-- a run is neither empty nor does it hold a blank -/
def IsWord (run : List Char) : Prop :=
  run ≠ [] ∧ ∀ c ∈ run, isBlank c = false

instance : DecidablePred IsWord :=
  fun run => decidable_of_iff (run ≠ [] ∧ run.all (fun c => !isBlank c) = true) (by simp [IsWord])

theorem isWord_singleton {c : Char} (hc : isBlank c = false) : IsWord [c] :=
  ⟨List.cons_ne_nil _ _, by simpa using hc⟩

theorem isWord_cons {c : Char} {run : List Char} (hc : isBlank c = false) (h : IsWord run) : IsWord (c :: run) := by
  refine ⟨List.cons_ne_nil _ _, fun d hd => ?_⟩
  rcases List.mem_cons.1 hd with rfl | hd
  · exact hc
  · exact h.2 d hd

theorem isWord_of_mem_joinRun {c : Char} (hc : isBlank c = false) (rest : List Char) {found : List (List Char)}
    (h : ∀ run ∈ found, IsWord run) : ∀ run ∈ joinRun c rest found, IsWord run := by
  intro run hrun
  unfold joinRun at hrun
  split at hrun
  · rename_i first more
    have hfirst : IsWord first := h first List.mem_cons_self
    split at hrun
    · rcases List.mem_cons.1 hrun with rfl | hrun
      · exact isWord_singleton hc
      · exact h run hrun
    · rcases List.mem_cons.1 hrun with rfl | hrun
      · exact isWord_cons hc hfirst
      · exact h run (List.mem_cons_of_mem _ hrun)
  · rcases List.mem_cons.1 hrun with rfl | hrun
    · exact isWord_singleton hc
    · exact h run hrun

theorem isWord_of_mem_runs {s run : List Char} (h : run ∈ runs s) : IsWord run := by
  induction s generalizing run with
  | nil => simp [runs] at h
  | cons c rest ih =>
    unfold runs at h
    split at h
    · exact ih h
    · rename_i hc
      exact isWord_of_mem_joinRun (by simpa using hc) rest (fun run hrun => ih hrun) run h

theorem isWord_of_mem_words {s word : String} (h : word ∈ words s) : IsWord word.toList := by
  obtain ⟨run, hrun, rfl⟩ := List.mem_map.1 h
  simpa using isWord_of_mem_runs hrun

end HostConsole.Text
