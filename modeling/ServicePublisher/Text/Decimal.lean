/-! Decimal numbers with an optional sign, fraction and exponent, and the words for values that no
digits write. -/
namespace ServicePublisher.Text

def afterDigits? : List Char → Option (List Char)
  | c :: cs => if c.isDigit then some (cs.dropWhile Char.isDigit) else none
  | [] => none

def afterSign : List Char → List Char
  | '+' :: cs => cs
  | '-' :: cs => cs
  | cs => cs

/-- The text after digits with at most one point before, between or after them. -/
def afterMantissa? (cs : List Char) : Option (List Char) :=
  match afterDigits? cs, cs with
  | some ('.' :: rest), _ => some (rest.dropWhile Char.isDigit)
  | some rest, _ => some rest
  | none, '.' :: rest => afterDigits? rest
  | none, _ => none

/-- Whether a text is an exponent or nothing. -/
def isExponent : List Char → Bool
  | [] => true
  | c :: cs => c.toLower = 'e' && afterDigits? (afterSign cs) == some []

/-- The words for infinity and for what is not a number, in lower case. -/
def numberWords : List (List Char) := ["inf".toList, "infinity".toList, "nan".toList]

def isDecimal (cs : List Char) : Bool :=
  let cs := afterSign cs
  numberWords.contains (cs.map Char.toLower) || (afterMantissa? cs).any isExponent

end ServicePublisher.Text
