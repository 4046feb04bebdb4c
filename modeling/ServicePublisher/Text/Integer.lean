/-! Integers written in decimal: an optional sign and at least one ASCII digit. Leading zeros do not
matter, and a value counts only when 64 bits in two's complement can hold it. -/
namespace ServicePublisher.Text

def digit? (c : Char) : Option Nat :=
  if '0' ≤ c ∧ c ≤ '9' then some (c.toNat - '0'.toNat) else none

/-- The value of digits that follow a number already read. -/
def naturalFrom? (n : Nat) : List Char → Option Nat
  | [] => some n
  | c :: cs => (digit? c).bind fun d => naturalFrom? (10 * n + d) cs

def natural? : List Char → Option Nat
  | [] => none
  | c :: cs => naturalFrom? 0 (c :: cs)

/-- The value of a text of digits with at most one sign in front. -/
def integer? : List Char → Option Int
  | '+' :: cs => (natural? cs).map Int.ofNat
  | '-' :: cs => (natural? cs).map fun n => -Int.ofNat n
  | cs => (natural? cs).map Int.ofNat

def FitsInt64 (n : Int) : Prop := -0x8000000000000000 ≤ n ∧ n < 0x8000000000000000

instance (n : Int) : Decidable (FitsInt64 n) := inferInstanceAs (Decidable (_ ∧ _))

def int64? (cs : List Char) : Option Int := (integer? cs).filter fun n => FitsInt64 n

end ServicePublisher.Text
