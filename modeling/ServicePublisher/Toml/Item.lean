import ServicePublisher.Toml.Datetime
import ServicePublisher.Toml.Node
import ServicePublisher.Toml.Number
import ServicePublisher.Toml.Quoted

/-! TOML keys and values as they are written. Arrays and inline tables may hold values of any kind,
down to a fixed depth. -/
namespace ServicePublisher.Toml

def isBare (c : Char) : Bool := c.isAlphanum || c = '_' || c = '-'

def keyPart : Reader String := fun cs =>
  let cs := skipGap cs
  let bare := cs.takeWhile isBare
  let part := if bare.isEmpty then quotedLine cs else some (String.ofList bare, cs.drop bare.length)
  part.map fun (s, rest) => (s, skipGap rest)

def keyParts : Nat → Reader (List String)
  | 0, _ => none
  | n + 1, cs =>
    match keyPart cs with
    | none => none
    | some (s, '.' :: rest) => (keyParts n rest).map fun (parts, rest) => (s :: parts, rest)
    | some (s, rest) => some ([s], rest)

/-- The path and the name in the parts of a key. -/
def Key.ofParts : List String → Option Key
  | [] => none
  | [name] => some ⟨[], name⟩
  | part :: parts => (Key.ofParts parts).map fun k => { k with path := part :: k.path }

/-- A bound on the parts of a key and on the depth of values. -/
def depthLimit : Nat := 79

def key : Reader Key := fun cs => do
  let (parts, rest) ← keyParts depthLimit cs
  let k ← Key.ofParts parts
  return (k, rest)

def boolean : Reader Bool
  | 't' :: 'r' :: 'u' :: 'e' :: rest => some (true, rest)
  | 'f' :: 'a' :: 'l' :: 's' :: 'e' :: rest => some (false, rest)
  | _ => none

/-- A value that holds no others. A date comes before a float, and a float before an integer, since
each of them may begin like the next. -/
def scalar : Reader Value := fun cs =>
  let read {α : Type} (make : α → Value) (r : Reader α) : Option (Value × List Char) :=
    (r cs).map fun (x, rest) => (make x, rest)
  (read .string quotedText).or <| (read .boolean boolean).or <| (read .datetime Datetime.read).or <|
    (read .float float).or <| read .integer integer

/-- The rest of an array: values between commas, blanks, line ends and comments; a comma may come
last. At most `n` values are read. -/
def arrayRest (value : Reader Value) : Nat → Reader (List Value)
  | 0, _ => none
  | n + 1, cs =>
    match skipVoid false cs with
    | ']' :: rest => some ([], rest)
    | cs =>
      match value cs with
      | none => none
      | some (v, cs) =>
        match skipVoid false cs with
        | ']' :: rest => some ([v], rest)
        | ',' :: rest => (arrayRest value n rest).map fun (vs, rest) => (v :: vs, rest)
        | _ => none

def pair (value : Reader Value) : Reader (Key × Value) := fun cs =>
  match key cs with
  | some (k, '=' :: rest) => (value (skipGap rest)).map fun (v, rest) => ((k, v), rest)
  | _ => none

def pairsRest (value : Reader Value) : Nat → Reader (List (Key × Value))
  | 0, _ => none
  | n + 1, cs =>
    match pair value cs with
    | none => none
    | some (p, cs) =>
      match skipGap cs with
      | '\x7d' :: rest => some ([p], rest)
      | ',' :: rest => (pairsRest value n rest).map fun (ps, rest) => (p :: ps, rest)
      | _ => none

/-- The table of pairs, if no two of them collide. -/
def tableOfPairs (ps : List (Key × Value)) : Option Value :=
  (ps.foldlM (fun entries (p : Key × Value) => Entries.add p.1 p.2 .header entries) []).map
    fun entries => .table (entriesValue entries)

def inlineRest (value : Reader Value) : Reader Value := fun cs =>
  match skipGap cs with
  | '\x7d' :: rest => some (.table [], rest)
  | cs => (pairsRest value cs.length cs).bind fun (ps, rest) =>
      (tableOfPairs ps).map fun v => (v, rest)

/-- A value that holds others down to a depth. -/
def valueWithin : Nat → Reader Value
  | 0, cs => scalar cs
  | depth + 1, '[' :: cs =>
    (arrayRest (valueWithin depth) (cs.length + 1) cs).map fun (vs, rest) => (.array vs, rest)
  | depth + 1, '\x7b' :: cs => inlineRest (valueWithin depth) cs
  | _ + 1, cs => scalar cs

def value : Reader Value := valueWithin depthLimit

end ServicePublisher.Toml
