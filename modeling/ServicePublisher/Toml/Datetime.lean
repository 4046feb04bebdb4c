import ServicePublisher.Text.Integer
import ServicePublisher.Toml.Reader
import ServicePublisher.Toml.Value

/-! TOML dates and times. Every part has a fixed number of digits and lies in its range. -/
namespace ServicePublisher.Toml

def twoDigits (low high : Nat) : Reader Nat
  | a :: b :: rest => do
    let n ← Text.natural? [a, b]
    if low ≤ n ∧ n ≤ high then some (n, rest) else none
  | _ => none

def fourDigits : Reader Nat
  | a :: b :: c :: d :: rest => (Text.natural? [a, b, c, d]).map fun n => (n, rest)
  | _ => none

def mark (c : Char) : Reader Unit
  | d :: rest => if d = c then some ((), rest) else none
  | [] => none

def daysIn (year month : Nat) : Nat :=
  if month = 2 then
    if year % 4 = 0 ∧ (year % 100 ≠ 0 ∨ year % 400 = 0) then 29 else 28
  else if month ∈ [4, 6, 9, 11] then 30
  else 31

def Date.read : Reader Date := fun cs => do
  let (year, cs) ← fourDigits cs
  let (_, cs) ← mark '-' cs
  let (month, cs) ← twoDigits 1 12 cs
  let (_, cs) ← mark '-' cs
  let (day, cs) ← twoDigits 1 31 cs
  if day ≤ daysIn year month then some (⟨year, month, day⟩, cs) else none

/-- Nanoseconds from the digits after the point; digits beyond the ninth do not count. -/
def nanoseconds (ds : List Char) : Nat :=
  let kept := ds.take 9
  ((Text.natural? kept).getD 0) * Nat.pow 10 (9 - kept.length)

def secondFraction (cs : List Char) : Option (Nat × List Char) :=
  match cs with
  | '.' :: rest =>
    let ds := rest.takeWhile Char.isDigit
    if ds.isEmpty then some (0, cs) else some (nanoseconds ds, rest.drop ds.length)
  | _ => some (0, cs)

/-- A time of day; its second may be a leap second. -/
def Time.read : Reader Time := fun cs => do
  let (hour, cs) ← twoDigits 0 23 cs
  let (_, cs) ← mark ':' cs
  let (minute, cs) ← twoDigits 0 59 cs
  let (_, cs) ← mark ':' cs
  let (second, cs) ← twoDigits 0 60 cs
  let (nanosecond, cs) ← secondFraction cs
  return (⟨hour, minute, second, nanosecond⟩, cs)

def offsetMinutes : Reader Nat := fun cs => do
  let (hour, cs) ← twoDigits 0 23 cs
  let (_, cs) ← mark ':' cs
  let (minute, cs) ← twoDigits 0 59 cs
  return (60 * hour + minute, cs)

def Offset.read : Reader Offset
  | 'Z' :: rest => some (.universal, rest)
  | 'z' :: rest => some (.universal, rest)
  | '+' :: rest => (offsetMinutes rest).map fun (n, rest) => (.minutes n, rest)
  | '-' :: rest => (offsetMinutes rest).map fun (n, rest) => (.minutes (-n), rest)
  | _ => none

/-- The time after a date, behind a letter T or a single space. -/
def timeAfterDate : Reader Time
  | 'T' :: rest => Time.read rest
  | 't' :: rest => Time.read rest
  | ' ' :: rest => Time.read rest
  | _ => none

def Datetime.read : Reader Datetime := fun cs =>
  match Date.read cs with
  | none => (Time.read cs).map fun (t, rest) => (.time t, rest)
  | some (d, rest) =>
    match timeAfterDate rest with
    | none => some (.date d, rest)
    | some (t, rest) =>
      match Offset.read rest with
      | none => some (.both d t none, rest)
      | some (o, rest) => some (.both d t (some o), rest)

end ServicePublisher.Toml
