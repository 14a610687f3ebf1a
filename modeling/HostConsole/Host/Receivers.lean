/-
Receivers: live instances that commands are bound to, with their kind forgotten. A collection of receivers holds at
most one of each kind; inserting one replaces the one of its kind.
-/
import HostConsole.Host.Basic

namespace HostConsole

/-- a live instance of some kind -/
structure Receiver (H : Host) where
  kind : H.Kind
  ref : H.Instance kind

/-- the instance, if it is of the given kind -/
def Receiver.as? {H : Host} (receiver : Receiver H) (kind : H.Kind) : Option (H.Instance kind) :=
  if h : receiver.kind = kind then some (h ▸ receiver.ref) else none

/-- live instances, at most one of each kind -/
structure Receivers (H : Host) where
  toList : List (Receiver H)

namespace Receivers

variable {H : Host}

/-- no instances -/
def empty : Receivers H := ⟨[]⟩

/-- add an instance in place of the one of its kind -/
def insert (receivers : Receivers H) (receiver : Receiver H) : Receivers H :=
  ⟨receivers.toList.filter (fun other => other.kind ≠ receiver.kind) ++ [receiver]⟩

/-- the instance of a kind, with its kind forgotten -/
def find? (receivers : Receivers H) (kind : H.Kind) : Option (Receiver H) :=
  receivers.toList.find? fun receiver => receiver.kind = kind

/-- the instance of a kind -/
def get? (receivers : Receivers H) (kind : H.Kind) : Option (H.Instance kind) :=
  (receivers.find? kind).bind (·.as? kind)

/-- how many instances there are -/
def size (receivers : Receivers H) : Nat :=
  receivers.toList.length

/-- there is no instance -/
def isEmpty (receivers : Receivers H) : Bool :=
  receivers.toList.isEmpty

end Receivers

end HostConsole
