/-! Digits in bases up to sixteen, the numbers that they write, and the characters with these
numbers as code points. -/
namespace ServicePublisher.Text

def hexDigit? (c : Char) : Option Nat :=
  if '0' ≤ c ∧ c ≤ '9' then some (c.toNat - '0'.toNat)
  else if 'a' ≤ c ∧ c ≤ 'f' then some (c.toNat - 'a'.toNat + 10)
  else if 'A' ≤ c ∧ c ≤ 'F' then some (c.toNat - 'A'.toNat + 10)
  else none

/-- The number that digits of a base write; each must be below the base. -/
def number? (base : Nat) (cs : List Char) : Option Nat :=
  cs.foldlM (fun n c => ((hexDigit? c).filter (· < base)).map (base * n + ·)) 0

def codePoint? (digits : List Char) : Option Char :=
  (number? 16 digits).bind fun n => if n.isValidChar then some (Char.ofNat n) else none

end ServicePublisher.Text
