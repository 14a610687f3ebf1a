/-
Tables of TOML and what may be added to them. A key is set once. A dotted key may only add to tables that dotted keys
made, and a header may only open a table that no header, dotted key or pair of braces has made; the tables inside
stay open to longer headers. A header in double brackets adds a table to a list that such headers made, and longer
headers then speak of the newest one.
-/
import HostConsole.Toml.Value

namespace HostConsole.Toml

/-- the entries of a table -/
abbrev Entries := List (String × Value)

namespace Entries

/-- the value of a key -/
def find? (entries : Entries) (key : String) : Option Value :=
  List.lookup key entries

/-- set a key in its place, or at the end if it is new -/
def put (entries : Entries) (key : String) (value : Value) : Entries :=
  if entries.any (·.1 == key) then entries.map fun entry => if entry.1 == key then (key, value) else entry
  else entries ++ [(key, value)]

/-- set a key that has no value yet -/
def add? (entries : Entries) (key : String) (value : Value) : Option Entries :=
  if (entries.find? key).isSome then none else some (entries ++ [(key, value)])

end Entries

/-- change the newest of a list of tables -/
def changeNewest? (change : Origin → Entries → Option Entries) (items : List Value) : Option (List Value) :=
  match items.reverse with
  | .table origin entries :: older =>
    (change origin entries).map fun entries => (Value.table origin entries :: older).reverse
  | _ => none

/-- change the table at a path by way of the tables on it, which are made where they are missing -/
def changeAt? (dotted : Bool) (change : Origin → Entries → Option Entries) :
    List String → Origin → Entries → Option Entries
  | [], origin, entries => change origin entries
  | key :: path, _, entries =>
    let made := if dotted then Origin.dotted else .implied
    match entries.find? key with
    | none => (changeAt? dotted change path made []).map fun inner => entries ++ [(key, .table made inner)]
    | some (.table origin inner) =>
      if origin == .braces || (dotted && origin == .header) then none
      else (changeAt? dotted change path origin inner).map (entries.put key <| .table origin ·)
    | some (.tables items) =>
      (changeNewest? (changeAt? dotted change path) items).map (entries.put key <| .tables ·)
    | some _ => none

/-- set a key of a table, given as a path and a last key -/
def assign? (path : List String) (key : String) (value : Value) : Origin → Entries → Option Entries :=
  changeAt? true
    (fun origin entries =>
      if (origin == .dotted) == path.isEmpty then none else entries.add? key value)
    path

/-- open the table of a header -/
def openTable? (key : String) (entries : Entries) : Option Entries :=
  match entries.find? key with
  | none => some (entries ++ [(key, .table .header [])])
  | some (.table .implied inner) => some (entries.put key (.table .header inner))
  | some _ => none

/-- add a table to the list of a header in double brackets -/
def openNext? (key : String) (entries : Entries) : Option Entries :=
  match entries.find? key with
  | none => some (entries ++ [(key, .tables [.table .header []])])
  | some (.tables items) => some (entries.put key (.tables (items ++ [.table .header []])))
  | some _ => none

/-- change the table that a header has opened -/
def changeOpened? (change : Origin → Entries → Option Entries) (path : List String) (entries : Entries) :
    Option Entries :=
  changeAt? false change path .header entries

end HostConsole.Toml
