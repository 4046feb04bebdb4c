import ServicePublisher.Text.Digits
import ServicePublisher.Toml.Reader

/-! Quoted TOML texts. Between double quotes a backslash gives a character a special meaning;
between single quotes every character stands for itself. Three quotes open a text of several lines,
and a line end directly after them does not count. -/
namespace ServicePublisher.Toml

open Text (codePoint?)

def put (c : Option Char) (r : Option (List Char × List Char)) : Option (List Char × List Char) :=
  c.bind fun c => r.map fun (text, rest) => (c :: text, rest)

def shortEscape? : Char → Option Char
  | 'b' => some '\x08'
  | 't' => some '\t'
  | 'n' => some '\n'
  | 'f' => some '\x0c'
  | 'r' => some '\r'
  | '"' => some '"'
  | '\\' => some '\\'
  | _ => none

def isPlain (c : Char) : Bool := isCommentChar c && c ≠ '"' && c ≠ '\\'

def basicRest : Reader (List Char)
  | '"' :: rest => some ([], rest)
  | '\\' :: 'u' :: a :: b :: c :: d :: rest => put (codePoint? [a, b, c, d]) (basicRest rest)
  | '\\' :: 'U' :: a :: b :: c :: d :: e :: f :: g :: h :: rest =>
    put (codePoint? [a, b, c, d, e, f, g, h]) (basicRest rest)
  | '\\' :: c :: rest => put (shortEscape? c) (basicRest rest)
  | c :: rest => if isPlain c then put (some c) (basicRest rest) else none
  | [] => none

/-- Up to two more quotes after the three that close a text belong to the text. -/
def closing (quote : Char) : List Char → List Char × List Char
  | a :: b :: rest =>
    if a = quote then if b = quote then ([a, b], rest) else ([a], b :: rest)
    else ([], a :: b :: rest)
  | [a] => if a = quote then ([a], []) else ([], [a])
  | [] => ([], [])

def endsLine (cs : List Char) : Bool :=
  match skipGap cs with
  | '\n' :: _ => true
  | '\r' :: '\n' :: _ => true
  | _ => false

/-- The rest of a text between three double quotes; `trimming` is set while blanks and line ends are
left out. -/
def multiBasicRest (trimming : Bool) : Reader (List Char)
  | '"' :: '"' :: '"' :: rest => some (closing '"' rest)
  | '\n' :: rest =>
    if trimming then multiBasicRest true rest else put (some '\n') (multiBasicRest false rest)
  | '\r' :: '\n' :: rest =>
    if trimming then multiBasicRest true rest else put (some '\n') (multiBasicRest false rest)
  | '\\' :: 'u' :: a :: b :: c :: d :: rest =>
    put (codePoint? [a, b, c, d]) (multiBasicRest false rest)
  | '\\' :: 'U' :: a :: b :: c :: d :: e :: f :: g :: h :: rest =>
    put (codePoint? [a, b, c, d, e, f, g, h]) (multiBasicRest false rest)
  | '\\' :: c :: rest =>
    -- A backslash at the end of a line takes away what is blank up to the next character.
    if endsLine (c :: rest) then multiBasicRest true rest
    else put (shortEscape? c) (multiBasicRest false rest)
  | c :: rest =>
    if trimming && isGap c then multiBasicRest true rest
    else if isPlain c || c = '"' then put (some c) (multiBasicRest false rest)
    else none
  | [] => none

def literalRest : Reader (List Char)
  | '\x27' :: rest => some ([], rest)
  | c :: rest => if isCommentChar c then put (some c) (literalRest rest) else none
  | [] => none

def multiLiteralRest : Reader (List Char)
  | '\x27' :: '\x27' :: '\x27' :: rest => some (closing '\x27' rest)
  | '\n' :: rest => put (some '\n') (multiLiteralRest rest)
  | '\r' :: '\n' :: rest => put (some '\n') (multiLiteralRest rest)
  | c :: rest => if isCommentChar c then put (some c) (multiLiteralRest rest) else none
  | [] => none

def dropLineBreak : List Char → List Char
  | '\n' :: rest => rest
  | '\r' :: '\n' :: rest => rest
  | cs => cs

def quotedLine : Reader String
  | '"' :: rest => (basicRest rest).map fun r => (String.ofList r.1, r.2)
  | '\x27' :: rest => (literalRest rest).map fun r => (String.ofList r.1, r.2)
  | _ => none

def quotedText : Reader String
  | '"' :: '"' :: '"' :: rest =>
    (multiBasicRest false (dropLineBreak rest)).map fun r => (String.ofList r.1, r.2)
  | '\x27' :: '\x27' :: '\x27' :: rest =>
    (multiLiteralRest (dropLineBreak rest)).map fun r => (String.ofList r.1, r.2)
  | cs => quotedLine cs

end ServicePublisher.Toml
