import ServicePublisher.Text.Printable

/-! Texts between double quotes, as diagnostic descriptions show them. -/
namespace ServicePublisher.Text

def hexDigits (n : Nat) : List Char := Nat.toDigits 16 n

/-- One character of a quoted text: six have a short form, other characters without a mark of their
own are named by their code point. -/
def escaped (c : Char) : List Char :=
  match c with
  | '\x00' => ['\\', '0']
  | '\t' => ['\\', 't']
  | '\r' => ['\\', 'r']
  | '\n' => ['\\', 'n']
  | '"' => ['\\', '"']
  | '\\' => ['\\', '\\']
  | c => if isPrintable c then [c] else ['\\', 'u', '\x7b'] ++ hexDigits c.toNat ++ ['\x7d']

def quoted (s : String) : String :=
  "\"" ++ String.ofList (s.toList.flatMap escaped) ++ "\""

def quotedList (ss : List String) : String :=
  "[" ++ ", ".intercalate (ss.map quoted) ++ "]"

end ServicePublisher.Text
