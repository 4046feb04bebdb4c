import ServicePublisher.Toml.Value

/-! TOML tables while a document is being read. A table remembers how it came about, since that
decides whether later lines may add to it. -/
namespace ServicePublisher.Toml

/-- How a table came about. -/
inductive Origin where
  /-- By a header of its own, or as the whole document. -/
  | header
  /-- As a part of the path of another header. -/
  | implied
  /-- As a part of a dotted key. -/
  | dotted
deriving DecidableEq, Repr

/-- What stands under a key: a finished value, a table, or tables in a row with the latest first. -/
inductive Node where
  | value (v : Value)
  | table (origin : Origin) (entries : List (String × Node))
  | tables (latest : List (String × Node)) (earlier : List (List (String × Node)))

/-- The entries of a table in the order of their first mention. -/
abbrev Entries := List (String × Node)

/-- A key of one or more parts: the path to a table, and a name in it. -/
structure Key where
  path : List String
  name : String
deriving DecidableEq, Repr

mutual

def Node.toValue : Node → Value
  | .value v => v
  | .table _ entries => .table (entriesValue entries)
  | .tables latest earlier =>
    .array ((tablesValue earlier).reverse ++ [.table (entriesValue latest)])

def entriesValue : List (String × Node) → List (String × Value)
  | [] => []
  | (k, n) :: rest => (k, n.toValue) :: entriesValue rest

def tablesValue : List (List (String × Node)) → List Value
  | [] => []
  | t :: ts => .table (entriesValue t) :: tablesValue ts

end

namespace Entries

/-- Changes what stands under a key, or adds it; the change may be refused. -/
def alter (key : String) (change : Option Node → Option Node) : Entries → Option Entries
  | [] => (change none).map fun n => [(key, n)]
  | (k, n) :: rest =>
    if k = key then (change (some n)).map fun n => (k, n) :: rest
    else (alter key change rest).map ((k, n) :: ·)

/-- Changes the table at the end of a path. Tables on the way are made if they are missing; of
tables in a row the latest is meant. -/
def descend (dotted : Bool) (change : Origin → Entries → Option Entries) :
    List String → Origin → Entries → Option Entries
  | [], origin, entries => change origin entries
  | key :: path, _, entries =>
    alter key (fun node =>
      match node with
      | none =>
        let origin : Origin := if dotted then .dotted else .implied
        (descend dotted change path origin []).map (Node.table origin)
      | some (.value _) => none
      | some (.table origin inner) =>
        -- A dotted key may not pass through a table that has a header.
        if dotted && origin = .header then none
        else (descend dotted change path origin inner).map (Node.table origin)
      | some (.tables latest earlier) =>
        (descend dotted change path .header latest).map fun latest => .tables latest earlier)
      entries

/-- Adds a value under a key that is new. -/
def add (key : Key) (v : Value) (origin : Origin) (entries : Entries) : Option Entries :=
  descend true
    (fun origin entries =>
      -- A key with a path adds to tables that dotted keys made, a key without one to all others.
      if origin = .dotted ↔ key.path = [] then none
      else alter key.name (fun node => if node.isNone then some (.value v) else none) entries)
    key.path origin entries

/-- Opens the table of a header. It is new, or has been implied by the headers of its parts. -/
def openTable (key : Key) (entries : Entries) : Option Entries :=
  descend false
    (fun _ entries => alter key.name (fun node =>
      match node with
      | none => some (.table .header [])
      | some (.table .implied inner) => some (.table .header inner)
      | some _ => none) entries)
    key.path .header entries

/-- Opens one more of the tables in a row that a header names. -/
def openElement (key : Key) (entries : Entries) : Option Entries :=
  descend false
    (fun _ entries => alter key.name (fun node =>
      match node with
      | none => some (.tables [] [])
      | some (.tables latest earlier) => some (.tables [] (latest :: earlier))
      | some _ => none) entries)
    key.path .header entries

end Entries

end ServicePublisher.Toml
