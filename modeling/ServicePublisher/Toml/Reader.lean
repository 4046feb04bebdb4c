/-! Readers of TOML text. A reader takes a value from the front of the text and leaves the rest. -/
namespace ServicePublisher.Toml

/-- Reads a value from the front of a text, if there is one. -/
abbrev Reader (α : Type) := List Char → Option (α × List Char)

/-- A space or a tab; nothing else separates words within a line. -/
def isGap (c : Char) : Bool := c = ' ' || c = '\t'

def skipGap (cs : List Char) : List Char := cs.dropWhile isGap

/-- A character of a comment: a tab, or anything but a control character. -/
def isCommentChar (c : Char) : Bool := c = '\t' || (0x20 ≤ c.toNat && c.toNat ≠ 0x7F)

/-- The text after spaces, line ends and comments. A comment that a control character breaks off is
not skipped to its end. -/
def skipVoid (inComment : Bool) : List Char → List Char
  | '\n' :: rest => skipVoid false rest
  | '\r' :: '\n' :: rest => skipVoid false rest
  | c :: rest =>
    if inComment then if isCommentChar c then skipVoid true rest else c :: rest
    else if isGap c then skipVoid false rest
    else if c = '#' then skipVoid true rest
    else c :: rest
  | [] => []

/-- The text after the end of a line, at which the whole text may end too. -/
def lineBreak? : List Char → Option (List Char)
  | [] => some []
  | '\n' :: rest => some rest
  | '\r' :: '\n' :: rest => some rest
  | _ => none

def lineEnd? (cs : List Char) : Option (List Char) :=
  match skipGap cs with
  | '#' :: rest => lineBreak? (rest.dropWhile isCommentChar)
  | rest => lineBreak? rest

end ServicePublisher.Toml
