import Mathlib.Data.Nat.Digits.Defs
import ServicePublisher.Text.Blank
import ServicePublisher.Text.Integer

/-! The texts that are read as integers, and the integers they write. Reading takes exactly the
texts of a sign, or none, and digits, as long as their value fits into 64 bits. -/
namespace ServicePublisher.Text

/-- The number that digits write, the last one being the least significant. -/
def decimal (digits : List Char) : Nat :=
  Nat.ofDigits 10 (digits.reverse.map fun c => c.toNat - '0'.toNat)

/-- At least one character, and nothing but ASCII digits. -/
def Digits (cs : List Char) : Prop := cs ≠ [] ∧ ∀ c ∈ cs, c.isDigit = true

/-- A text of digits, with one sign in front or none, and the number it writes. -/
inductive Writes : List Char → Int → Prop
  | unsigned {digits : List Char} (h : Digits digits) : Writes digits (decimal digits)
  | plus {digits : List Char} (h : Digits digits) : Writes ('+' :: digits) (decimal digits)
  | minus {digits : List Char} (h : Digits digits) : Writes ('-' :: digits) (-decimal digits)

/-- Without its outer blanks, the text writes a number that 64 bits in two's complement can hold. -/
def WritesInt64 (s : String) : Prop :=
  ∃ n, Writes (trimmed s.toList) n ∧ -2 ^ 63 ≤ n ∧ n ≤ 2 ^ 63 - 1

section Reading

variable {cs : List Char} {n : Int}

theorem decimal_cons (c : Char) (cs : List Char) :
    decimal (c :: cs) = (c.toNat - '0'.toNat) * 10 ^ cs.length + decimal cs := by
  rw [decimal, List.reverse_cons, List.map_append, Nat.ofDigits_append, List.length_map,
    List.length_reverse, List.map_singleton, Nat.ofDigits_singleton, Nat.mul_comm, Nat.add_comm,
    decimal]

theorem digit?_eq_some_iff {c : Char} {d : Nat} :
    digit? c = some d ↔ c.isDigit = true ∧ c.toNat - '0'.toNat = d := by
  have hdigit : ('0' ≤ c ∧ c ≤ '9') ↔ c.isDigit = true := by
    rw [Char.isDigit, Bool.and_eq_true, decide_eq_true_iff, decide_eq_true_iff]
    rfl
  rw [digit?]
  simp only [hdigit]
  split <;> simp_all

theorem naturalFrom?_eq_some_iff {m v : Nat} : naturalFrom? m cs = some v ↔
    (∀ c ∈ cs, c.isDigit = true) ∧ m * 10 ^ cs.length + decimal cs = v := by
  induction cs generalizing m with
  | nil => simp [naturalFrom?, decimal]
  | cons c cs ih =>
    have hvalue (d : Nat) : (10 * m + d) * 10 ^ cs.length + decimal cs =
        m * 10 ^ (cs.length + 1) + (d * 10 ^ cs.length + decimal cs) := by ring
    rw [naturalFrom?, Option.bind_eq_some_iff]
    simp only [digit?_eq_some_iff, ih, List.forall_mem_cons, List.length_cons, decimal_cons, hvalue]
    constructor
    · rintro ⟨d, ⟨hc, rfl⟩, hcs, hv⟩
      exact ⟨⟨hc, hcs⟩, hv⟩
    · rintro ⟨⟨hc, hcs⟩, hv⟩
      exact ⟨_, ⟨hc, rfl⟩, hcs, hv⟩

theorem natural?_eq_some_iff {v : Nat} : natural? cs = some v ↔ Digits cs ∧ decimal cs = v := by
  cases cs with
  | nil => simp [natural?, Digits]
  | cons c cs =>
    rw [natural?, naturalFrom?_eq_some_iff, Digits, Nat.zero_mul, Nat.zero_add]
    simp

theorem integer?_eq_some_iff : integer? cs = some n ↔ Writes cs n := by
  unfold integer?
  constructor
  · intro h
    split at h
    all_goals
      obtain ⟨v, hv, rfl⟩ := Option.map_eq_some_iff.1 h
      obtain ⟨hdigits, rfl⟩ := natural?_eq_some_iff.1 hv
    · exact .plus hdigits
    · exact .minus hdigits
    · exact .unsigned hdigits
  · intro h
    cases h with
    | unsigned h =>
      have hread := natural?_eq_some_iff.2 ⟨h, rfl⟩
      split
      -- A sign is no digit.
      · exact absurd (h.2 _ List.mem_cons_self) (by decide)
      · exact absurd (h.2 _ List.mem_cons_self) (by decide)
      · rw [hread]
        rfl
    | plus h => simp only [natural?_eq_some_iff.2 ⟨h, rfl⟩, Option.map_some, Int.ofNat_eq_natCast]
    | minus h => simp only [natural?_eq_some_iff.2 ⟨h, rfl⟩, Option.map_some, Int.ofNat_eq_natCast]

theorem fitsInt64_iff : FitsInt64 n ↔ -2 ^ 63 ≤ n ∧ n ≤ 2 ^ 63 - 1 := by
  rw [FitsInt64]
  omega

theorem isSome_int64?_iff (s : String) :
    (int64? (trimmed s.toList)).isSome = true ↔ WritesInt64 s := by
  simp only [Option.isSome_iff_exists, int64?, Option.filter_eq_some_iff, integer?_eq_some_iff,
    decide_eq_true_iff, fitsInt64_iff, WritesInt64]

end Reading

/-- The least number that counts may be written with leading zeros, and the number below it is too
small. -/
example : (int64? "-0009223372036854775808".toList).isSome = true ∧
    int64? "-9223372036854775809".toList = none ∧ int64? "+".toList = none := by decide +kernel

end ServicePublisher.Text
