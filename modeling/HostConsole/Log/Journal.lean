/-
The bounded log. It keeps the newest entries, at most `capacity` of them, and counts all entries ever appended in
`sequence`; clearing forgets the entries and leaves the count.

A reader holds a cursor, the count it has seen. `tail` gives what came after the cursor and is still kept, and the
cursor to pass next time. With `H` the list of all entries appended and `c` the count when the log was last cleared,
the entries kept are those of `H` from `max c (|H| - capacity)` on.
-/
import HostConsole.Log.Entry

namespace HostConsole

/-- the bounded log -/
structure Journal where
  entries : List Entry
  capacity : Nat
  sequence : Nat
  deriving DecidableEq

namespace Journal

/-- how many entries a log keeps if nothing else is asked for -/
def defaultCapacity : Nat := 50

/-- the count of appended entries stops growing here -/
def sequenceLimit : Nat := UInt64.size - 1

/-- an empty log; it keeps at least one entry -/
def ofCapacity (capacity : Nat) : Journal :=
  ⟨[], max capacity 1, 0⟩

/-- the last `n` entries of a list -/
def newest (n : Nat) (entries : List Entry) : List Entry :=
  entries.drop (entries.length - n)

/-- append one entry; the oldest ones give way -/
def append (journal : Journal) (entry : Entry) : Journal :=
  { journal with
    entries := newest journal.capacity (journal.entries ++ [entry])
    sequence := min sequenceLimit (journal.sequence + 1) }

/-- append entries in order -/
def appendAll (journal : Journal) (entries : List Entry) : Journal :=
  entries.foldl append journal

/-- forget the entries kept -/
def clear (journal : Journal) : Journal :=
  { journal with entries := [] }

/-- the entries kept that came after a cursor -/
def since (journal : Journal) (cursor : Nat) : List Entry :=
  newest (journal.sequence - cursor) journal.entries

/-- what came after a cursor, and the next cursor -/
def tail (journal : Journal) (cursor : Nat) : List Entry × Nat :=
  (journal.since cursor, journal.sequence)

/-- the entries kept, one below the other -/
def render (coloured : Bool) (journal : Journal) : String :=
  "\n".intercalate (journal.entries.map (·.render coloured))

end Journal

end HostConsole
