import SystemLoops.Format.Value

namespace SystemLoops.Format.Toml

inductive Origin where
  /-- By its header. -/
  | header
  /-- On the way to the header of another table. -/
  | passed
  /-- By a key with dots in a section. -/
  | key (inSection : Nat)
deriving Repr, DecidableEq

/-- What a key stands for. -/
inductive Slot where
  | value (v : Value)
  | table (origin : Origin) (entries : List (Text × Slot))
  /-- A list of tables, the latest one apart. -/
  | tables (earlier : List (List (Text × Slot))) (latest : List (Text × Slot))
deriving Inhabited

/-- The keys of a table and what they stand for. -/
abbrev Entries := List (Text × Slot)

namespace Entries

/-- Change what a key stands for; a key that is not there yet is added. -/
def update? (f : Option Slot → Option Slot) (key : Text) : Entries → Option Entries
  | [] => (f none).map fun s => [(key, s)]
  | (k, s) :: rest =>
    if k == key then (f (some s)).map fun s => (k, s) :: rest
    else (update? f key rest).map ((k, s) :: ·)

/-- The entries after the header of a table, or of one more table in a list of tables if `repeated`. -/
def openHeader? ( repeated : Bool) : (path : List Text) → Entries → Option Entries
  | [], _ => none
  | [key], entries =>
    entries.update? (fun slot => match slot, repeated with
      | none, false => some (.table .header [])
      | some (.table .passed inner), false => some (.table .header inner)
      | none, true => some (.tables [] [])
      | some (.tables earlier latest), true => some (.tables (earlier ++ [latest]) [])
      | _, _ => none) key
  | key :: path, entries =>
    entries.update? (fun slot => match slot with
      | none => (openHeader? repeated path []).map (.table .passed)
      | some (.table origin inner) => (openHeader? repeated path inner).map (.table origin)
      | some (.tables earlier latest) => (openHeader? repeated path latest).map (.tables earlier)
      | some (.value _) => none) key

/-- The entries after a key with a value in a section. -/
def insert? (number : Nat) (v : Value) : (path : List Text) → Entries → Option Entries
  | [], _ => none
  | [key], entries => entries.update? (fun slot => if slot.isNone then some (.value v) else none) key
  | key :: path, entries =>
    entries.update? (fun slot => match slot with
      | none => (insert? number v path []).map (.table (.key number))
      | some (.table origin inner) =>
        if origin == .passed || origin == .key number then
          (insert? number v path inner).map (.table origin)
        else none
      | some _ => none) key

/-- The entries after a key with a value below a header. -/
def insertBelow? (number : Nat) (path : List Text) (v : Value) : (header : List Text) → Entries → Option Entries
  | [], entries => entries.insert? number v path
  | key :: header, entries =>
    entries.update? (fun slot => match slot with
      | some (.table origin inner) => (insertBelow? number path v header inner).map (.table origin)
      | some (.tables earlier latest) => (insertBelow? number path v header latest).map (.tables earlier)
      | _ => none) key

end Entries

mutual

/-- What a key stands for, as a value. -/
def Slot.toValue : Slot → Value
  | .value v => v
  | .table _ entries => .map (slotValues entries)
  | .tables earlier latest => .list (tableValues earlier ++ [.map (slotValues latest)])

def slotValues : List (Text × Slot) → List (Text × Value)
  | [] => []
  | (key, s) :: rest => (key, s.toValue) :: slotValues rest

/-- Several tables as values. -/
def tableValues : List (List (Text × Slot)) → List Value
  | [] => []
  | entries :: rest => .map (slotValues entries) :: tableValues rest

end

/-- The table that several keys with values make. -/
def tableOf? (pairs : List (List Text × Value)) : Option (List (Text × Value)) :=
  (pairs.foldlM (fun (entries : Entries) (path, v) => entries.insert? 0 v path) []).map slotValues

end SystemLoops.Format.Toml
