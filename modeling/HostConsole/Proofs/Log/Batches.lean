/-
A log whose one reader reads after every batch of appends (`flushed`).

Results: of every batch the reader has received the newest entries, as many as the log keeps (`run_flushed`), and so
everything if no batch is longer than that (`received_flushed`). By position, an entry is missing exactly if the log's
capacity of entries came between it and the next read (`missing_iff_flushed`).
-/
import HostConsole.Proofs.Log.Readers

namespace HostConsole.Journal

variable {Reader : Type} {capacity : ℕ} {batches : List (List Entry)}

/-- the entries of each batch are appended, and then the log is read -/
def flushed (batches : List (List Entry)) : List (Access Unit) :=
  batches.flatMap fun batch => batch.map .append ++ [.read ()]

/-! ## Batches -/

theorem appended_map_append (entries : List Entry) :
    appended (entries.map .append : List (Access Reader)) = entries := by
  simp [appended, List.filterMap_map, Function.comp_def, Access.entry?]

theorem flushed_append (batches more : List (List Entry)) :
    flushed (batches ++ more) = flushed batches ++ flushed more :=
  List.flatMap_append

theorem flushed_singleton (batch : List Entry) : flushed [batch] = batch.map .append ++ [.read ()] := by
  simp [flushed]

theorem appended_flushed (batches : List (List Entry)) : appended (flushed batches) = batches.flatten := by
  induction batches with
  | nil => rfl
  | cons batch batches ih =>
    rw [← List.singleton_append, flushed_append, flushed_singleton, appended_append, appended_append, ih,
      appended_map_append]
    simp [appended, Access.entry?]

theorem clear_not_mem_flushed (batches : List (List Entry)) : .clear ∉ flushed batches := by
  simp [flushed]

/-- after every append comes a read -/
theorem read_mem_of_flushed {before after : List (Access Unit)} {entry : Entry}
    (h : flushed batches = before ++ .append entry :: after) : .read () ∈ after := by
  rcases List.eq_nil_or_concat' batches with rfl | ⟨batches, batch, rfl⟩
  · simp [flushed] at h
  · rw [flushed_append, flushed_singleton, ← List.append_assoc] at h
    rcases split_snoc h with ⟨rfl, rfl⟩ | ⟨rest, rfl, -⟩
    · simp at h
    · simp

theorem clearedAt_of_not_mem [DecidableEq Reader] {ops : List (Access Reader)} (h : .clear ∉ ops) :
    clearedAt ops = 0 := by
  have hnil : ops.rdropWhile (· ≠ .clear) = [] :=
    List.rdropWhile_eq_nil_iff.2 fun op hop => decide_eq_true fun e => h (e ▸ hop)
  rw [clearedAt, hnil]
  rfl

/-! ## What the reader receives -/

theorem run_append [DecidableEq Reader] (shared : Shared Reader) (a b : List (Access Reader)) :
    shared.run (a ++ b) = (shared.run a).run b :=
  List.foldl_append

theorem run_map_append [DecidableEq Reader] (shared : Shared Reader) (entries : List Entry) :
    shared.run (entries.map .append) = { shared with journal := shared.journal.appendAll entries } := by
  induction entries generalizing shared with
  | nil => rfl
  | cons entry entries ih => exact ih _

theorem run_flushed_cons (shared : Shared Unit) (batch : List Entry) (batches : List (List Entry)) :
    shared.run (flushed (batch :: batches)) = (shared.run (flushed [batch])).run (flushed batches) := by
  rw [← List.singleton_append, flushed_append, run_append]

/-- reading leaves the log as it is -/
theorem journal_run_flushed (shared : Shared Unit) (batches : List (List Entry)) :
    (shared.run (flushed batches)).journal = shared.journal.appendAll batches.flatten := by
  induction batches generalizing shared with
  | nil => rfl
  | cons batch batches ih =>
    rw [run_flushed_cons, ih, flushed_singleton, run_snoc, run_map_append]
    simp [Shared.step, appendAll, List.foldl_append]

/-- a window cut at the start of its last batch is the newest of the batch -/
theorem drop_max_append (history batch : List Entry) (capacity : ℕ) :
    (history ++ batch).drop (max history.length (max 0 ((history ++ batch).length - capacity))) =
      newest capacity batch := by
  have hcut : max history.length (max 0 ((history ++ batch).length - capacity)) =
      history.length + (batch.length - capacity) := by
    rw [List.length_append]
    omega
  rw [hcut, List.drop_length_add_append, newest]

/-- the reader has seen everything, and received the newest entries of each batch -/
theorem run_flushed (capacity : ℕ) (batches : List (List Entry)) (hlt : batches.flatten.length < UInt64.size) :
    ((Shared.start capacity).run (flushed batches)).cursor () = batches.flatten.length ∧
      ((Shared.start capacity).run (flushed batches)).received () = batches.flatMap (newest (max capacity 1)) := by
  induction batches using List.reverseRecOn with
  | nil => exact ⟨rfl, rfl⟩
  | append_singleton batches batch ih =>
    have hflatten : (batches ++ [batch]).flatten = batches.flatten ++ batch := by simp
    rw [hflatten] at hlt ⊢
    obtain ⟨hcursor, hreceived⟩ := ih (by rw [List.length_append] at hlt; omega)
    set ops := flushed batches ++ batch.map .append
    have hops : appended ops = batches.flatten ++ batch := by
      rw [appended_append, appended_flushed, appended_map_append]
    have hclear : clearedAt ops = 0 :=
      clearedAt_of_not_mem (by simp [ops, clear_not_mem_flushed])
    have hw := run_window capacity ops (by rwa [hops])
    rw [hops, hclear] at hw
    have hrun : (Shared.start capacity).run ops =
        { (Shared.start capacity).run (flushed batches) with
          journal := ((Shared.start capacity).run (flushed batches)).journal.appendAll batch } := by
      rw [run_append, run_map_append]
    obtain ⟨hnext, hgot⟩ := step_read hw ()
    rw [flushed_append, flushed_singleton, ← List.append_assoc, run_snoc]
    refine ⟨hnext, ?_⟩
    rw [hgot, hrun, hcursor, hreceived, drop_max_append, List.flatMap_append, List.flatMap_singleton]

theorem newest_of_length_le {entries : List Entry} (h : entries.length ≤ capacity) :
    newest capacity entries = entries := by
  rw [newest, Nat.sub_eq_zero_of_le h, List.drop_zero]

/-- no batch overflows the log: the reader has received everything -/
theorem received_flushed (hlt : batches.flatten.length < UInt64.size)
    (hfit : ∀ batch ∈ batches, batch.length ≤ max capacity 1) :
    ((Shared.start capacity).run (flushed batches)).received () = batches.flatten := by
  rw [(run_flushed capacity batches hlt).2, ← List.flatMap_id']
  exact List.flatMap_congr fun batch hb => newest_of_length_le (hfit batch hb)

/-- an entry is missing exactly if the capacity was appended between it and the next read -/
theorem missing_iff_flushed (capacity : ℕ) (hlt : batches.flatten.length < UInt64.size) :
    let received := ((Shared.start capacity).run (flushed batches)).received ()
    received.Sublist batches.flatten ∧
      ∃ positions : List ℕ, positions.Pairwise (· < ·) ∧
        received.map some = positions.map (batches.flatten[·]?) ∧
        ∀ before entry after, flushed batches = before ++ .append entry :: after →
          ((appended before).length ∉ positions ↔ max capacity 1 ≤ (appended (untilRead () after)).length) := by
  intro received
  obtain ⟨positions, h⟩ := run_follows capacity (flushed batches) () (by rwa [appended_flushed])
  have hsublist := h.sublist.trans (List.take_sublist _ _)
  have hreceived := h.received
  rw [appended_flushed] at hsublist hreceived
  refine ⟨hsublist, positions, h.sorted, hreceived, fun before entry after hs => ?_⟩
  have hclear : .clear ∉ untilRead () after := fun hm =>
    clear_not_mem_flushed batches (by rw [hs]; simp [(List.takeWhile_prefix _).subset hm])
  rw [h.delivered before entry after hs (read_mem_of_flushed hs), not_and_or, not_lt, not_not, or_iff_left hclear]

end HostConsole.Journal
