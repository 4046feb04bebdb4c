/-! Sets of characters, given as ranges of code points. -/
namespace ServicePublisher.Text

/-- Whether a range, with both ends included, holds a character. -/
def inRanges (ranges : List (Nat × Nat)) (c : Char) : Bool :=
  ranges.any fun r => r.1 ≤ c.toNat && c.toNat ≤ r.2

end ServicePublisher.Text
