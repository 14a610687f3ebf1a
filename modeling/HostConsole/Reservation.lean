/-
Memory reserved ahead. A log, the rates of a graph and its picture each ask for the memory of all they will ever hold
when they are made. One reservation takes no more bytes than a signed word of 64 bits counts; asking for more panics,
however much memory there is.
-/
import HostConsole.Graph.Basic
import HostConsole.Log.Journal
import HostConsole.Settings.Basic

namespace HostConsole

/-- memory for so many items, each of so many bytes -/
structure Reservation where
  count : Nat
  itemBytes : Nat
  deriving DecidableEq

namespace Reservation

/-- no reservation takes more bytes; this is the greatest signed word of 64 bits -/
def limit : Nat := 9223372036854775807

/-- the bytes reserved -/
def bytes (reservation : Reservation) : Nat :=
  reservation.count * reservation.itemBytes

/-- the reservation can be made -/
def fits (reservation : Reservation) : Bool :=
  reservation.bytes ≤ limit

end Reservation

/-- the memory for the entries of a log -/
def Journal.reservation (journal : Journal) : Reservation :=
  ⟨journal.capacity, 32⟩

/-- the memory for the rates of a graph, one for each column, and for its picture -/
def RateGraph.reservations (graph : RateGraph) : List Reservation :=
  [⟨graph.width, 4⟩, ⟨graph.pixels.size, 4⟩]

/-- what a console with these settings reserves, in order -/
def Settings.reservations (settings : Settings) : List Reservation :=
  (Journal.ofCapacity settings.maxLogLines).reservation ::
    (RateGraph.ofSize settings.graphWidth settings.graphHeight).reservations

end HostConsole
