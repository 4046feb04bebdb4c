import ServicePublisher.Toml.Item

/-! TOML documents: lines that add values to tables, and headers that say to which table the lines
after them add. -/
namespace ServicePublisher.Toml

inductive Line where
  | blank
  | pair (key : Key) (v : Value)
  | table (key : Key)
  | element (key : Key)

def header (close : List Char) : Reader Key := fun cs =>
  (key cs).bind fun (k, rest) =>
    if rest.take close.length = close then some (k, rest.drop close.length) else none

def lineStart : Reader Line := fun cs =>
  match skipGap cs with
  | '[' :: '[' :: rest => (header [']', ']'] rest).map fun (k, rest) => (.element k, rest)
  | '[' :: rest => (header [']'] rest).map fun (k, rest) => (.table k, rest)
  | cs =>
    if (lineEnd? cs).isSome then some (.blank, cs)
    else (pair value cs).map fun ((k, v), rest) => (.pair k v, rest)

def lines : Nat → List Char → Option (List Line)
  | _, [] => some []
  | 0, _ => none
  | n + 1, cs =>
    (lineStart cs).bind fun (l, rest) =>
      (lineEnd? rest).bind fun rest => (lines n rest).map (l :: ·)

/-- A document up to some line: all entries so far, and the table to which lines add. -/
structure Draft where
  entries : Entries := []
  current : List String := []

namespace Draft

/-- The document with one more line, unless the line contradicts those before it. -/
def add (d : Draft) : Line → Option Draft
  | .blank => some d
  | .pair k v =>
    (Entries.descend false (Entries.add k v) d.current .header d.entries).map
      fun entries => { d with entries }
  | .table k => (Entries.openTable k d.entries).map fun entries => ⟨entries, k.path ++ [k.name]⟩
  | .element k => (Entries.openElement k d.entries).map fun entries => ⟨entries, k.path ++ [k.name]⟩

end Draft

/-- The text without a byte order mark. -/
def withoutMark : List Char → List Char
  | '\ufeff' :: rest => rest
  | cs => cs

def document? (text : String) : Option (List (String × Value)) := do
  let cs := withoutMark text.toList
  let ls ← lines (cs.length + 1) cs
  let d ← ls.foldlM Draft.add {}
  return entriesValue d.entries

end ServicePublisher.Toml
