/-
What the readers of a shared log receive. A log is shared by any number of writers and readers, whose operations come
in some order, one at a time (`Access`). A reader passes on the cursor it was given last and collects what it gets
(`Shared.step`).

A position of the history is delivered to a reader by the first of its reads after the append. The invariant
(`Follows`) says this of all positions below the reader's cursor, and that all others still wait for a read.

Result: `tail_exactly_once`. After any run the log is the window on its history, and every tail is that window cut at
the cursor. A reader has received entries of the history in order, each position at most once, and a position that
was followed by one of its reads is missing exactly when, before the first such read, `capacity` more entries were
appended or the log was cleared.
-/
import Mathlib.Data.List.DropRight
import Mathlib.Tactic
import HostConsole.Proofs.Log.Window

namespace HostConsole.Journal

/-! ## Operations on a shared log -/

/-- one operation on a shared log; a read is a tail from the reader's own cursor -/
inductive Access (Reader : Type) where
  | append (entry : Entry)
  | clear
  | tail (cursor : ℕ)
  | read (reader : Reader)
  deriving DecidableEq

/-- a shared log, the cursors of its readers, and what they have received -/
structure Shared (Reader : Type) where
  journal : Journal
  cursor : Reader → ℕ
  received : Reader → List Entry

variable {Reader : Type} {capacity : ℕ}

/-- the entry that an operation appends -/
def Access.entry? : Access Reader → Option Entry
  | .append entry => some entry
  | _ => none

/-- all entries appended, in order -/
def appended (ops : List (Access Reader)) : List Entry :=
  ops.filterMap Access.entry?

variable [DecidableEq Reader]

/-- how many entries had been appended when the log was last cleared -/
def clearedAt (ops : List (Access Reader)) : ℕ :=
  (appended (ops.rdropWhile (· ≠ .clear))).length

/-- what is done before the next read of a reader -/
def untilRead (reader : Reader) (ops : List (Access Reader)) : List (Access Reader) :=
  ops.takeWhile (· ≠ .read reader)

/-- an empty log; no reader has read anything -/
def Shared.start (capacity : ℕ) : Shared Reader :=
  ⟨ofCapacity capacity, fun _ => 0, fun _ => []⟩

/-- one operation; a reader keeps the cursor it is given and collects the entries -/
def Shared.step (shared : Shared Reader) : Access Reader → Shared Reader
  | .append entry => { shared with journal := shared.journal.append entry }
  | .clear => { shared with journal := shared.journal.clear }
  | .tail _ => shared
  | .read reader =>
    let (entries, next) := shared.journal.tail (shared.cursor reader)
    { shared with
      cursor := Function.update shared.cursor reader next
      received := Function.update shared.received reader (shared.received reader ++ entries) }

/-- operations in order -/
def Shared.run (shared : Shared Reader) (ops : List (Access Reader)) : Shared Reader :=
  ops.foldl step shared

theorem run_snoc (shared : Shared Reader) (ops : List (Access Reader)) (op : Access Reader) :
    shared.run (ops ++ [op]) = (shared.run ops).step op := by
  simp [Shared.run, List.foldl_append]

/-! ## The window after a run -/

omit [DecidableEq Reader] in
theorem appended_append (a b : List (Access Reader)) : appended (a ++ b) = appended a ++ appended b :=
  List.filterMap_append

omit [DecidableEq Reader] in
theorem appended_snoc (ops : List (Access Reader)) (op : Access Reader) :
    appended (ops ++ [op]) = appended ops ++ op.entry?.toList := by
  rw [appended_append]
  cases op <;> rfl

theorem clearedAt_snoc_clear (ops : List (Access Reader)) : clearedAt (ops ++ [.clear]) = (appended ops).length := by
  rw [clearedAt, List.rdropWhile_concat_neg _ _ _ (by simp), appended_snoc]
  simp [Access.entry?]

theorem clearedAt_snoc {ops : List (Access Reader)} {op : Access Reader} (h : op ≠ .clear) :
    clearedAt (ops ++ [op]) = clearedAt ops := by
  rw [clearedAt, List.rdropWhile_concat_pos _ _ _ (by simpa using h), clearedAt]

theorem step_window {shared : Shared Reader} {ops : List (Access Reader)} {op : Access Reader}
    (h : Window (appended ops) (clearedAt ops) capacity shared.journal)
    (hlt : (appended (ops ++ [op])).length < UInt64.size) :
    Window (appended (ops ++ [op])) (clearedAt (ops ++ [op])) capacity (shared.step op).journal := by
  rw [appended_snoc] at hlt ⊢
  cases op with
  | append entry =>
    rw [clearedAt_snoc (by simp)]
    simp only [Access.entry?, Option.toList_some, List.length_append, List.length_singleton] at hlt
    exact window_append h (by simp only [sequenceLimit]; omega) entry
  | clear =>
    rw [clearedAt_snoc_clear]
    simpa [Access.entry?, Shared.step] using window_clear h
  | tail cursor =>
    rw [clearedAt_snoc (by simp)]
    simpa [Access.entry?, Shared.step] using h
  | read reader =>
    rw [clearedAt_snoc (by simp)]
    simpa [Access.entry?, Shared.step] using h

theorem run_window (capacity : ℕ) (ops : List (Access Reader)) (hlt : (appended ops).length < UInt64.size) :
    Window (appended ops) (clearedAt ops) (max capacity 1) ((Shared.start capacity).run ops).journal := by
  induction ops using List.reverseRecOn with
  | nil => exact window_ofCapacity capacity
  | append_singleton ops op ih =>
    rw [run_snoc]
    refine step_window (ih (lt_of_le_of_lt ?_ hlt)) hlt
    simp [appended_append]

/-! ## Before and after an append -/

omit [DecidableEq Reader] in
/-- an append in a run with one more operation is that operation, or it stands in the run before it -/
theorem split_snoc {ops before after : List (Access Reader)} {op : Access Reader} {entry : Entry}
    (h : ops ++ [op] = before ++ .append entry :: after) :
    (after = [] ∧ ops = before) ∨ ∃ rest, after = rest ++ [op] ∧ ops = before ++ .append entry :: rest := by
  rcases List.eq_nil_or_concat' after with rfl | ⟨rest, last, rfl⟩
  · exact Or.inl ⟨rfl, (List.append_inj' h rfl).1⟩
  · rw [← List.cons_append, ← List.append_assoc] at h
    obtain ⟨h1, h2⟩ := List.append_inj' h rfl
    cases h2
    exact Or.inr ⟨rest, rfl, h1⟩

omit [DecidableEq Reader] in
theorem length_appended_split (before : List (Access Reader)) (entry : Entry) (after : List (Access Reader)) :
    (appended (before ++ .append entry :: after)).length = (appended before).length + 1 + (appended after).length := by
  have h : appended (.append entry :: after) = entry :: appended after := rfl
  rw [appended_append, h, List.length_append, List.length_cons]
  omega

theorem clearedAt_le (ops : List (Access Reader)) : clearedAt ops ≤ (appended ops).length :=
  ((List.rdropWhile_prefix _ ops).sublist.filterMap _).length_le

/-- the last clear came before an append exactly if none comes after it -/
theorem clearedAt_le_iff (before : List (Access Reader)) (entry : Entry) (after : List (Access Reader)) :
    clearedAt (before ++ .append entry :: after) ≤ (appended before).length ↔ .clear ∉ after := by
  induction after using List.reverseRecOn with
  | nil =>
    rw [clearedAt_snoc (by simp)]
    simpa using clearedAt_le before
  | append_singleton after op ih =>
    rw [← List.cons_append, ← List.append_assoc]
    by_cases hop : op = .clear
    · subst hop
      have := length_appended_split before entry after
      rw [clearedAt_snoc_clear]
      simp only [List.mem_append, List.mem_singleton, or_true, not_true_eq_false, iff_false]
      omega
    · rw [clearedAt_snoc hop, ih]
      simp [Ne.symm hop]

theorem untilRead_append {reader : Reader} {a : List (Access Reader)} (h : .read reader ∈ a)
    (b : List (Access Reader)) : untilRead reader (a ++ b) = untilRead reader a := by
  induction a with
  | nil => cases h
  | cons op a ih =>
    by_cases hop : op = .read reader
    · simp [untilRead, hop]
    · have ha : .read reader ∈ a := (List.mem_cons.1 h).resolve_left (Ne.symm hop)
      have e := ih ha
      simp only [untilRead, ne_eq, decide_not] at e
      simp [untilRead, hop, e]

theorem untilRead_snoc_read {reader : Reader} {a : List (Access Reader)} (h : .read reader ∉ a) :
    untilRead reader (a ++ [.read reader]) = a := by
  have hall : ∀ op ∈ a, decide (op ≠ .read reader) = true := fun op hop =>
    decide_eq_true fun e => h (e ▸ hop)
  rw [untilRead, List.takeWhile_append_of_pos hall]
  simp

/-! ## One operation and one reader -/

theorem step_other {reader : Reader} {op : Access Reader} (hop : op ≠ .read reader) (shared : Shared Reader) :
    (shared.step op).cursor reader = shared.cursor reader ∧
      (shared.step op).received reader = shared.received reader := by
  cases op with
  | read other =>
    have hne : reader ≠ other := fun e => hop (by rw [e])
    simp [Shared.step, hne]
  | _ => exact ⟨rfl, rfl⟩

theorem step_read {history : List Entry} {cleared : ℕ} {shared : Shared Reader}
    (h : Window history cleared capacity shared.journal) (reader : Reader) :
    (shared.step (.read reader)).cursor reader = history.length ∧
      (shared.step (.read reader)).received reader = shared.received reader ++
        history.drop (max (shared.cursor reader) (max cleared (history.length - capacity))) := by
  simp [Shared.step, window_tail h]

/-- the end of a history is what stands at the positions from there on -/
theorem map_getElem?_range' (history : List Entry) (first : ℕ) :
    (List.range' first (history.length - first)).map (history[·]?) = (history.drop first).map some := by
  apply List.ext_getElem
  · simp
  · intro i h1 h2
    simp only [List.length_map, List.length_drop] at h2
    simp [List.getElem?_eq_getElem (show first + i < history.length by omega)]

/-! ## What a reader has received -/

/-- after a run, a reader has received the entries at the given positions: those below its cursor that the first read
after their append still found in the log -/
structure Follows (capacity : ℕ) (reader : Reader) (ops : List (Access Reader)) (shared : Shared Reader)
    (positions : List ℕ) : Prop where
  sorted : positions.Pairwise (· < ·)
  below : ∀ i ∈ positions, i < shared.cursor reader
  seen : shared.cursor reader ≤ (appended ops).length
  received : (shared.received reader).map some = positions.map ((appended ops)[·]?)
  sublist : (shared.received reader).Sublist ((appended ops).take (shared.cursor reader))
  waiting : ∀ before entry after, ops = before ++ .append entry :: after →
    (.read reader ∉ after ↔ shared.cursor reader ≤ (appended before).length)
  delivered : ∀ before entry after, ops = before ++ .append entry :: after → .read reader ∈ after →
    ((appended before).length ∈ positions ↔
      (appended (untilRead reader after)).length < capacity ∧ .clear ∉ untilRead reader after)

theorem follows_start (capacity : ℕ) (reader : Reader) (start : ℕ) :
    Follows capacity reader [] (Shared.start start) [] := by
  refine ⟨List.Pairwise.nil, by simp, le_rfl, rfl, List.Sublist.refl _, ?_, ?_⟩ <;>
    intro before entry after h <;> simp at h

/-- an operation that is no read of the reader gives it nothing -/
theorem step_follows_other {reader : Reader} {ops : List (Access Reader)} {shared : Shared Reader}
    {positions : List ℕ} {op : Access Reader} (hop : op ≠ .read reader)
    (h : Follows capacity reader ops shared positions) :
    Follows capacity reader (ops ++ [op]) (shared.step op) positions := by
  obtain ⟨hcursor, hreceived⟩ := step_other hop shared
  refine ⟨h.sorted, ?_, ?_, ?_, ?_, ?_, ?_⟩
  · rw [hcursor]; exact h.below
  · rw [hcursor, appended_snoc, List.length_append]
    exact le_trans h.seen (Nat.le_add_right _ _)
  · rw [hreceived, h.received, appended_snoc]
    refine List.map_congr_left fun i hi => ?_
    rw [List.getElem?_append_left (lt_of_lt_of_le (h.below i hi) h.seen)]
  · rw [hcursor, hreceived, appended_snoc, List.take_append_of_le_length h.seen]
    exact h.sublist
  · intro before entry after hs
    rw [hcursor]
    rcases split_snoc hs with ⟨rfl, rfl⟩ | ⟨rest, rfl, hrest⟩
    · simpa using h.seen
    · rw [← h.waiting before entry rest hrest]
      simp [Ne.symm hop]
  · intro before entry after hs hr
    rcases split_snoc hs with ⟨rfl, rfl⟩ | ⟨rest, rfl, hrest⟩
    · cases hr
    · have hm : .read reader ∈ rest := by simpa [Ne.symm hop] using hr
      rw [untilRead_append hm]
      exact h.delivered before entry rest hrest hm

/-- a read gives the reader what is left of the window beyond its cursor -/
theorem step_follows_read {reader : Reader} {ops : List (Access Reader)} {shared : Shared Reader}
    {positions : List ℕ} (hw : Window (appended ops) (clearedAt ops) capacity shared.journal)
    (h : Follows capacity reader ops shared positions) :
    ∃ positions', Follows capacity reader (ops ++ [.read reader]) (shared.step (.read reader)) positions' := by
  set first := max (shared.cursor reader) (max (clearedAt ops) ((appended ops).length - capacity)) with hfirst
  have hfirst_le : first ≤ (appended ops).length := by
    have := h.seen
    have := hw.cleared_le
    omega
  obtain ⟨hcursor, hreceived⟩ := step_read hw reader
  rw [← hfirst] at hreceived
  have happended : appended (ops ++ [.read reader]) = appended ops := by
    simp [appended_snoc, Access.entry?]
  refine ⟨positions ++ List.range' first ((appended ops).length - first), ?_, ?_, ?_, ?_, ?_, ?_, ?_⟩
  · refine List.pairwise_append.2 ⟨h.sorted, List.pairwise_lt_range', fun i hi j hj => ?_⟩
    have := h.below i hi
    have := (List.mem_range'_1.1 hj).1
    omega
  · intro i hi
    rw [hcursor]
    rcases List.mem_append.1 hi with hi | hi
    · exact lt_of_lt_of_le (h.below i hi) h.seen
    · have := (List.mem_range'_1.1 hi).2
      omega
  · rw [hcursor, happended]
  · rw [hreceived, happended, List.map_append, List.map_append, h.received, map_getElem?_range']
  · rw [hcursor, hreceived, happended, List.take_length]
    conv_rhs => rw [← List.take_append_drop (shared.cursor reader) (appended ops)]
    exact h.sublist.append (List.drop_sublist_drop_left _ (le_max_left _ _))
  · intro before entry after hs
    rw [hcursor]
    rcases split_snoc hs with ⟨rfl, rfl⟩ | ⟨rest, rfl, hrest⟩
    · simp at hs
    · have := length_appended_split before entry rest
      rw [← hrest] at this
      simp only [List.mem_append, List.mem_singleton, or_true, not_true_eq_false, false_iff]
      omega
  · intro before entry after hs _
    rcases split_snoc hs with ⟨rfl, rfl⟩ | ⟨rest, rfl, hrest⟩
    · simp at hs
    · have hlen := length_appended_split before entry rest
      have hclear := clearedAt_le_iff before entry rest
      rw [← hrest] at hlen hclear
      rw [List.mem_append, List.mem_range'_1]
      by_cases hm : .read reader ∈ rest
      · -- an earlier read decided the position, which is below the cursor
        have hlt : ¬ shared.cursor reader ≤ (appended before).length :=
          fun hle => (h.waiting before entry rest hrest).2 hle hm
        rw [untilRead_append hm, ← h.delivered before entry rest hrest hm, or_iff_left (by omega)]
      · -- the position waited for this read
        have hge := (h.waiting before entry rest hrest).1 hm
        have hnot : (appended before).length ∉ positions := fun hi => by
          have := h.below _ hi
          omega
        rw [untilRead_snoc_read hm, or_iff_right hnot, ← hclear]
        omega

theorem run_follows (capacity : ℕ) (ops : List (Access Reader)) (reader : Reader)
    (hlt : (appended ops).length < UInt64.size) :
    ∃ positions, Follows (max capacity 1) reader ops ((Shared.start capacity).run ops) positions := by
  induction ops using List.reverseRecOn with
  | nil => exact ⟨[], follows_start _ reader capacity⟩
  | append_singleton ops op ih =>
    have hops : (appended ops).length < UInt64.size := by
      rw [appended_append, List.length_append] at hlt
      omega
    obtain ⟨positions, h⟩ := ih hops
    rw [run_snoc]
    by_cases hop : op = .read reader
    · subst hop
      exact step_follows_read (run_window capacity ops hops) h
    · exact ⟨positions, step_follows_other hop h⟩

/-- **A tail delivers each surviving entry exactly once.** The log is the window on its history, every tail is the
window from the cursor on, and a position read for at all is missing exactly if it was evicted or cleared before. -/
theorem tail_exactly_once (capacity : ℕ) (ops : List (Access Reader)) (hlt : (appended ops).length < UInt64.size) :
    let shared := (Shared.start capacity).run ops
    let kept := max (clearedAt ops) ((appended ops).length - max capacity 1)
    shared.journal.entries = (appended ops).drop kept ∧
      shared.journal.sequence = (appended ops).length ∧
      (∀ cursor, shared.journal.tail cursor = ((appended ops).drop (max cursor kept), (appended ops).length)) ∧
      ∀ reader, (shared.received reader).Sublist (appended ops) ∧
        ∃ positions : List ℕ, positions.Pairwise (· < ·) ∧
          (shared.received reader).map some = positions.map ((appended ops)[·]?) ∧
          ∀ before entry after, ops = before ++ .append entry :: after →
            (.read reader ∉ after → (appended before).length ∉ positions) ∧
            (.read reader ∈ after → ((appended before).length ∉ positions ↔
              max capacity 1 ≤ (appended (untilRead reader after)).length ∨ .clear ∈ untilRead reader after)) := by
  intro shared kept
  have hw := run_window capacity ops hlt
  refine ⟨hw.entries, hw.sequence, window_tail hw, fun reader => ?_⟩
  obtain ⟨positions, h⟩ := run_follows capacity ops reader hlt
  refine ⟨h.sublist.trans (List.take_sublist _ _), positions, h.sorted, h.received, fun before entry after hs => ?_⟩
  refine ⟨fun hr hi => ?_, fun hr => ?_⟩
  · have hwait := (h.waiting before entry after hs).1 hr
    have hbelow := h.below _ hi
    omega
  · rw [h.delivered before entry after hs hr, not_and_or, not_lt, not_not]

/-- two readers of a log of two entries: `b` is evicted before it is read, and `e` is cleared away -/
def twoReaders : List (Access Bool) :=
  [.append ⟨.info, "a"⟩, .read true, .append ⟨.info, "b"⟩, .append ⟨.info, "c"⟩, .append ⟨.warning, "d"⟩, .read true,
    .append ⟨.info, "e"⟩, .clear, .append ⟨.error, "f"⟩, .tail 2, .read true, .read false]

theorem tail_exactly_once_two_readers :
    (appended twoReaders).length < UInt64.size ∧
      (∀ cursor, ((Shared.start 2).run twoReaders).journal.tail cursor =
        ((appended twoReaders).drop (max cursor 5), 6)) ∧
      ∃ positions : List ℕ, positions.Pairwise (· < ·) ∧
        (((Shared.start 2).run twoReaders).received true).map some = positions.map ((appended twoReaders)[·]?) ∧
        1 ∉ positions ∧ 4 ∉ positions := by
  have hlt : (appended twoReaders).length < UInt64.size := by decide
  obtain ⟨-, -, htail, hreaders⟩ := tail_exactly_once 2 twoReaders hlt
  obtain ⟨-, positions, hsorted, hreceived, hmissing⟩ := hreaders true
  have hb := (hmissing (twoReaders.take 2) ⟨.info, "b"⟩ (twoReaders.drop 3) rfl).2 (by decide)
  have he := (hmissing (twoReaders.take 6) ⟨.info, "e"⟩ (twoReaders.drop 7) rfl).2 (by decide)
  exact ⟨hlt, htail, positions, hsorted, hreceived, hb.2 (Or.inl (by decide)), he.2 (Or.inr (by decide))⟩

end HostConsole.Journal
