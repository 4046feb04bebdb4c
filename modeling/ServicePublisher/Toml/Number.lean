import ServicePublisher.Text.Digits
import ServicePublisher.Text.Integer
import ServicePublisher.Toml.Reader

/-! TOML numbers. A single underscore may stand between two digits; a number in base ten may have a
sign, and no zero before its other digits. -/
namespace ServicePublisher.Toml

open Text (hexDigit? number?)

/-- The digits of a base at the front of a text, underscores between them left out. -/
def digitRun (base : Nat) : List Char → List Char × List Char
  | c :: '_' :: d :: rest =>
    if ((hexDigit? c).any (· < base)) then
      if ((hexDigit? d).any (· < base)) then
        let r := digitRun base (d :: rest)
        (c :: r.1, r.2)
      else ([c], '_' :: d :: rest)
    else ([], c :: '_' :: d :: rest)
  | c :: rest =>
    if ((hexDigit? c).any (· < base)) then
      let r := digitRun base rest
      (c :: r.1, r.2)
    else ([], c :: rest)
  | [] => ([], [])

def digits (base : Nat) : Reader (List Char) := fun cs =>
  match digitRun base cs with
  | ([], _) => none
  | r => some r

def sign : List Char → List Char × List Char
  | '+' :: rest => (['+'], rest)
  | '-' :: rest => (['-'], rest)
  | cs => ([], cs)

/-- The digits of a whole number in base ten; after a zero it ends. -/
def wholeDigits : Reader (List Char)
  | '0' :: rest => some (['0'], rest)
  | cs => digits 10 cs

def inRange (n : Int) (rest : List Char) : Option (Int × List Char) :=
  if Text.FitsInt64 n then some (n, rest) else none

def prefixed (base : Nat) (cs : List Char) : Option (Int × List Char) :=
  (digits base cs).bind fun (ds, rest) => (number? base ds).bind fun n => inRange n rest

def integer : Reader Int
  | '0' :: 'x' :: cs => prefixed 16 cs
  | '0' :: 'o' :: cs => prefixed 8 cs
  | '0' :: 'b' :: cs => prefixed 2 cs
  | cs =>
    let (s, cs) := sign cs
    (wholeDigits cs).bind fun (ds, rest) =>
      (number? 10 ds).bind fun n => inRange (if s = ['-'] then -n else n) rest

def fraction : Reader (List Char)
  | '.' :: cs => digits 10 cs
  | _ => none

def exponent : Reader (List Char × List Char)
  | c :: cs =>
    if c = 'e' || c = 'E' then
      let (s, cs) := sign cs
      (digits 10 cs).map fun (ds, rest) => ((s, ds), rest)
    else none
  | [] => none

/-- The least number that no double holds: half a unit above the largest. -/
def doubleLimit : Nat := Nat.pow 2 1024 - Nat.pow 2 970

/-- Whether digits times a power of ten are too large for a double. Numbers with so many digits
before the point that they are far from the limit are not worked out. -/
def overflows (mantissa : List Char) (power : Int) : Bool :=
  let significant := mantissa.dropWhile (· = '0')
  let size : Int := significant.length + power
  if significant.isEmpty || size < 300 then false
  else if 320 < size then true
  else
    let n := (number? 10 significant).getD 0
    if 0 ≤ power then doubleLimit ≤ n * Nat.pow 10 power.toNat
    else doubleLimit * Nat.pow 10 (-power).toNat ≤ n

/-- A float of digits with a fraction, an exponent, or both. One too large in the positive direction
is refused. -/
def decimalFloat : Reader String := fun cs =>
  let (s, cs) := sign cs
  (wholeDigits cs).bind fun (whole, cs) =>
    let (frac, cs) := (fraction cs).getD ([], cs)
    let e := exponent cs
    let ((es, eds), rest) := e.getD (([], []), cs)
    if frac.isEmpty && e.isNone then none
    else
      let size : Int := ((number? 10 eds).getD 0 : Nat)
      let power : Int := (if es = ['-'] then -size else size) - frac.length
      if s ≠ ['-'] && overflows (whole ++ frac) power then none
      else
        some (String.ofList (s ++ whole ++ (if frac.isEmpty then [] else '.' :: frac) ++
          (if e.isNone then [] else 'e' :: es ++ eds)), rest)

/-- A float without digits: infinite, or no number at all. -/
def specialFloat : Reader String := fun cs =>
  let (s, cs) := sign cs
  match cs with
  | 'i' :: 'n' :: 'f' :: rest => some (String.ofList (s ++ ['i', 'n', 'f']), rest)
  | 'n' :: 'a' :: 'n' :: rest => some (String.ofList (s ++ ['n', 'a', 'n']), rest)
  | _ => none

def float : Reader String := fun cs => (decimalFloat cs).or (specialFloat cs)

end ServicePublisher.Toml
