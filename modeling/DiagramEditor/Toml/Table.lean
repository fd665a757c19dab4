import DiagramEditor.Toml.Value

/-! Tables while a TOML document is read. A table arises from a header, from a longer
header that passes through it, from a dotted key, or as a value. What arose as a
value is closed. A header may complete a table through which only longer headers
passed, once; dotted keys may extend only tables that arose from dotted keys. An
array of tables grows by headers in double brackets, and a path through it leads to
its newest table. -/
namespace DiagramEditor.Toml

/-- Where a table that is still open came from. -/
inductive Origin where
  | header | passed | dotted
deriving DecidableEq, Repr

inductive Node where
  | value (value : Value)
  | table (origin : Origin) (entries : List (String × Node))
  /-- An array of tables, with the newest table first. -/
  | tables (newest : List (String × Node)) (older : List (List (String × Node)))
deriving Inhabited

abbrev Entries := List (String × Node)

namespace Entries

/-- The entries with the value of a key replaced. -/
def set (entries : Entries) (key : String) (node : Node) : Entries :=
  entries.map fun entry => if entry.1 = key then (key, node) else entry

/-- Changes the table that a path leads to, and makes the tables that are missing on
the way. A dotted path is refused at a table that a header began. -/
def change (missing : Origin) (action : Origin → Entries → Option Entries) :
    (path : List String) → Origin → Entries → Option Entries
  | [], origin, entries => action origin entries
  | key :: path, _, entries =>
    match entries.lookup key with
    | none =>
      (change missing action path missing []).map fun inner =>
        entries ++ [(key, .table missing inner)]
    | some (.table origin inner) =>
      if missing = .dotted ∧ origin = .header then none
      else (change missing action path origin inner).map (entries.set key <| .table origin ·)
    | some (.tables newest older) =>
      (change missing action path .header newest).map (entries.set key <| .tables · older)
    | some (.value _) => none

/-- Adds a value under the last of several dotted keys. The table that receives it has to
be the one at hand, or to have come from a dotted key. -/
def assign (path : List String) (key : String) (value : Value) (entries : Entries) :
    Option Entries :=
  change .dotted
    (fun origin inner =>
      if (path.isEmpty || origin = .dotted) && (inner.lookup key).isNone then
        some (inner ++ [(key, .value value)])
      else none)
    path .header entries

/-- Begins the table of a header. -/
def openTable (path : List String) (key : String) (entries : Entries) : Option Entries :=
  change .passed
    (fun _ inner =>
      match inner.lookup key with
      | none => some (inner ++ [(key, .table .header [])])
      | some (.table .passed begun) => some (inner.set key (.table .header begun))
      | some _ => none)
    path .header entries

/-- Adds a table to the array of a header in double brackets. -/
def openArrayTable (path : List String) (key : String) (entries : Entries) : Option Entries :=
  change .passed
    (fun _ inner =>
      match inner.lookup key with
      | none => some (inner ++ [(key, .tables [] [])])
      | some (.tables newest older) => some (inner.set key (.tables [] (newest :: older)))
      | some _ => none)
    path .header entries

end Entries

mutual

/-- The finished value of a node. -/
def Node.toValue : Node → Value
  | .value value => value
  | .table _ entries => .table (entriesToValues entries)
  | .tables newest older => .array (tablesToValues older [.table (entriesToValues newest)])

def entriesToValues : List (String × Node) → List (String × Value)
  | [] => []
  | (key, node) :: more => (key, node.toValue) :: entriesToValues more

/-- Tables with the newest first, put before the values that follow them. -/
def tablesToValues : List (List (String × Node)) → List Value → List Value
  | [], behind => behind
  | entries :: older, behind =>
    tablesToValues older (.table (entriesToValues entries) :: behind)

end

end DiagramEditor.Toml
