/-
The bounded log as a window on its history. With `H` the list of all entries appended and `c` the count when the log
was last cleared, the log keeps the entries of `H` from `max c (|H| - capacity)` on (`Window`).

Results: each operation moves the window as it should (`window_append`, `window_clear`), and a tail cuts it at the
cursor (`window_tail`), also where the cursor is behind the window, inside it, or beyond the history.
-/
import Mathlib.Tactic
import HostConsole.Log.Journal

namespace HostConsole.Journal

/-! ## The window -/

/-- the log keeps the end of its history: what came after the last clear, and at most `capacity` entries of it -/
structure Window (history : List Entry) (cleared capacity : ℕ) (journal : Journal) : Prop where
  entries : journal.entries = history.drop (max cleared (history.length - capacity))
  capacity : journal.capacity = capacity
  sequence : journal.sequence = history.length
  cleared_le : cleared ≤ history.length

variable {history : List Entry} {cleared capacity : ℕ} {journal : Journal}

theorem window_ofCapacity (capacity : ℕ) : Window [] 0 (max capacity 1) (ofCapacity capacity) :=
  ⟨by simp [ofCapacity], rfl, rfl, le_rfl⟩

/-- cutting a window and its next entry down to the capacity gives the next window -/
theorem newest_drop_append (history : List Entry) (entry : Entry) {cleared : ℕ} (capacity : ℕ)
    (hc : cleared ≤ history.length) :
    newest capacity (history.drop (max cleared (history.length - capacity)) ++ [entry]) =
      (history ++ [entry]).drop (max cleared ((history ++ [entry]).length - capacity)) := by
  set kept := max cleared (history.length - capacity)
  have hk : kept ≤ history.length := by omega
  calc newest capacity (history.drop kept ++ [entry])
      = newest capacity ((history ++ [entry]).drop kept) := by rw [List.drop_append_of_le_length hk]
    _ = (history ++ [entry]).drop (kept + (((history ++ [entry]).drop kept).length - capacity)) := by
        rw [newest, List.drop_drop]
    _ = (history ++ [entry]).drop (max cleared ((history ++ [entry]).length - capacity)) := by
        congr 1
        simp only [List.length_drop, List.length_append, List.length_singleton]
        omega

theorem window_append (h : Window history cleared capacity journal) (hlt : history.length < sequenceLimit)
    (entry : Entry) : Window (history ++ [entry]) cleared capacity (journal.append entry) := by
  refine ⟨?_, h.capacity, ?_, ?_⟩
  · simp only [append, h.entries, h.capacity]
    exact newest_drop_append history entry capacity h.cleared_le
  · simp only [append, h.sequence, List.length_append, List.length_singleton]
    omega
  · have := h.cleared_le
    simp only [List.length_append, List.length_singleton]
    omega

theorem window_clear (h : Window history cleared capacity journal) :
    Window history history.length capacity journal.clear := by
  refine ⟨?_, h.capacity, h.sequence, le_rfl⟩
  rw [List.drop_of_length_le (by omega)]
  rfl

/-- a tail cuts the window at the cursor -/
theorem window_tail (h : Window history cleared capacity journal) (cursor : ℕ) : journal.tail cursor =
    (history.drop (max cursor (max cleared (history.length - capacity))), history.length) := by
  have hc := h.cleared_le
  rw [tail, since, h.sequence, h.entries, newest, List.drop_drop, List.length_drop, Prod.mk.injEq]
  refine ⟨?_, rfl⟩
  by_cases hs : cursor ≤ history.length
  · congr 1
    omega
  · -- a cursor beyond the history sees nothing
    rw [List.drop_of_length_le (by omega), List.drop_of_length_le (by omega)]

end HostConsole.Journal
