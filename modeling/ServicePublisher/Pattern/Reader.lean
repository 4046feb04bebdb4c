import ServicePublisher.Pattern.Tree
import ServicePublisher.Text.Alphanumeric
import ServicePublisher.Text.Blank
import ServicePublisher.Text.Digits

/-! Reading the parts of a regular expression. The expressions read here hold no closing brace, for
braces end the fields in which they stand; so whatever an opening brace begins is never closed, and
is refused. In the verbose mode blanks and comments between the parts do not count. -/
namespace ServicePublisher.Pattern

/-- Reads something from the front of an expression, and leaves the rest. -/
abbrev Reader (α : Type) := List Char → Option (α × List Char)

/-- The text after blanks and comments. A comment goes from a hash to the end of the line. -/
def skipVoid (inComment : Bool) : List Char → List Char
  | [] => []
  | c :: cs =>
    if inComment then skipVoid (c ≠ '\n') cs
    else if Text.isBlank c then skipVoid false cs
    else if c = '#' then skipVoid true cs
    else c :: cs

def skip (verbose : Bool) (cs : List Char) : List Char := if verbose then skipVoid false cs else cs

/-! ## Escapes -/

def metaCharacters : List Char :=
  ['\\', '.', '+', '*', '?', '(', ')', '|', '[', ']', '\x7b', '\x7d', '^', '$', '#', '&', '-', '~']

/-- Whether a character stands for itself after a backslash: signs in ASCII do, but letters and
digits do not, nor do the two signs that look for the edges of words. -/
def standsForItself (c : Char) : Bool :=
  metaCharacters.contains c || (c.toNat < 0x80 && !c.isAlphanum && c ≠ '<' && c ≠ '>')

def hexDigits (verbose : Bool) : Nat → Reader (List Char)
  | 0, cs => some ([], cs)
  | n + 1, cs =>
    match skip verbose cs with
    | c :: cs =>
      if (Text.hexDigit? c).isSome then
        (hexDigits verbose n cs).map fun (ds, cs) => (c :: ds, cs)
      else none
    | [] => none

def namedCharacter (verbose : Bool) (digits : Nat) : Reader Atom := fun cs => do
  let (ds, cs) ← hexDigits verbose digits cs
  let c ← Text.codePoint? ds
  return (.char c (digits == 2), cs)

/-- What a letter or sign stands for after a backslash, if no more text belongs to it. -/
def shortEscape? (c : Char) : Option Atom :=
  if standsForItself c then some (.char c false)
  else
    match c with
    | 'a' => some (.char '\x07' false)
    | 'f' => some (.char '\x0c' false)
    | 't' => some (.char '\t' false)
    | 'n' => some (.char '\n' false)
    | 'r' => some (.char '\r' false)
    | 'v' => some (.char '\x0b' false)
    | 'A' | 'z' => some .edge
    | 'b' | 'B' | '<' | '>' => some .wordEdge
    | 'd' | 's' | 'w' => some (.kind false)
    | 'D' | 'S' | 'W' => some (.kind true)
    | _ => none

/-- What follows a backslash. Groups are not referred back to, and properties of characters are not
known. -/
def escape (verbose : Bool) : Reader Atom
  | 'x' :: cs => namedCharacter verbose 2 cs
  | 'u' :: cs => namedCharacter verbose 4 cs
  | 'U' :: cs => namedCharacter verbose 8 cs
  | c :: cs => (shortEscape? c).map fun a => (a, cs)
  | [] => none

/-! ## Sets -/

def Atom.toCharSet? : Atom → Option CharSet
  | .char c byte => some (.char c byte)
  | .kind complement => some (.kind complement)
  | _ => none

def setAtom (verbose : Bool) : Reader Atom
  | '\\' :: cs => escape verbose cs
  | c :: cs => some (.char c false, cs)
  | [] => none

/-- The range between two characters, unless it is upside down. -/
def range? : Atom → Atom → Option CharSet
  | .char a x, .char b y => if a ≤ b then some (.range (.char a x) (.char b y)) else none
  | _, _ => none

/-- The character that comes next but for what does not count; of a comment it is the first that can
be seen. -/
def glimpse (verbose : Bool) (cs : List Char) : Option Char :=
  if verbose then
    match cs.dropWhile Text.isBlank with
    | '#' :: cs => (cs.dropWhile Text.isBlank).head?
    | cs => cs.head?
  else cs.head?

/-- A character, a class or a range in a set. A hyphen before a bracket or another hyphen makes no
range. -/
def setItem (verbose : Bool) : Reader CharSet := fun cs => do
  let (first, cs) ← setAtom verbose cs
  match skip verbose cs with
  | [] => none
  | '-' :: cs =>
    if (glimpse verbose cs).any fun c => c = ']' || c = '-' then
      return (← first.toCharSet?, '-' :: cs)
    else
      let (last, cs) ← setAtom verbose (skip verbose cs)
      return (← range? first last, cs)
  | cs => return (← first.toCharSet?, cs)

def classNames : List (List Char) :=
  ["alnum", "alpha", "ascii", "blank", "cntrl", "digit", "graph", "lower", "print", "punct",
    "space", "upper", "word", "xdigit"].map String.toList

/-- A class with a name, of which the opening bracket has been read. -/
def namedClass : Reader CharSet
  | ':' :: cs =>
    let (complement, cs) := match cs with
      | '^' :: cs => (true, cs)
      | cs => (false, cs)
    let name := cs.takeWhile (· ≠ ':')
    match cs.drop name.length with
    | ':' :: ']' :: cs => if classNames.contains name then some (.named complement, cs) else none
    | _ => none
  | _ => none

/-- A set that is not closed yet: what stands before the last operation, and what has been read
since, the last item first. -/
structure OpenSet where
  complement : Bool
  left : Option CharSet := none
  items : List CharSet := []

namespace OpenSet

def add (s : OpenSet) (x : CharSet) : OpenSet := { s with items := x :: s.items }

def content (s : OpenSet) : CharSet :=
  let right := CharSet.ofUnion s.items.reverse
  match s.left with
  | some left => .combined left right
  | none => right

def operate (s : OpenSet) : OpenSet := { s with left := some s.content, items := [] }

def close (s : OpenSet) : CharSet := .brackets s.complement s.content

end OpenSet

/-- Hyphens at the front of a set, at most `n` of them, stand for themselves. -/
def leadingHyphens (verbose : Bool) (s : OpenSet) : Nat → List Char → OpenSet × List Char
  | n + 1, '-' :: cs => leadingHyphens verbose (s.add (.char '-' false)) n (skip verbose cs)
  | _, cs => (s, cs)

/-- The front of a set after its bracket: the sign of a complement, and hyphens or a closing bracket
that stand for themselves. -/
def setFront (verbose : Bool) (cs : List Char) : OpenSet × List Char :=
  let (complement, cs) := match skip verbose cs with
    | '^' :: cs => (true, skip verbose cs)
    | cs => (false, cs)
  match leadingHyphens verbose { complement } cs.length cs with
  | (s, ']' :: cs) =>
    if s.items.isEmpty then (s.add (.char ']' false), skip verbose cs) else (s, ']' :: cs)
  | r => r

/-- The rest of a set within the sets around it, in at most `n` steps. -/
def setRest (verbose : Bool) : Nat → List OpenSet → OpenSet → Reader CharSet
  | 0, _, _, _ => none
  | n + 1, around, s, cs =>
    match skip verbose cs with
    | [] => none
    | '[' :: cs =>
      match namedClass cs with
      | some (x, cs) => setRest verbose n around (s.add x) cs
      | none =>
        let (inner, cs) := setFront verbose cs
        setRest verbose n (s :: around) inner cs
    | ']' :: cs =>
      match around with
      | [] => some (s.close, cs)
      | t :: around => setRest verbose n around (t.add s.close) cs
    | '&' :: '&' :: cs => setRest verbose n around s.operate cs
    | '-' :: '-' :: cs => setRest verbose n around s.operate cs
    | '~' :: '~' :: cs => setRest verbose n around s.operate cs
    | cs => (setItem verbose cs).bind fun (x, cs) => setRest verbose n around (s.add x) cs

def charSet (verbose : Bool) : Reader CharSet := fun cs =>
  let (s, rest) := setFront verbose cs
  setRest verbose (cs.length + 1) [] s rest

/-! ## Groups -/

/-- The switches at the front of a group, and whether the group ends after them. Each mode is
switched once, and the sign that turns modes off comes once and before one. -/
def modeSwitches (negated dangling : Bool) (ss : List Switch) : Reader (List Switch × Bool)
  | ':' :: cs => if dangling then none else some ((ss, false), cs)
  | ')' :: cs => if dangling then none else some ((ss, true), cs)
  | '-' :: cs => if negated then none else modeSwitches true true ss cs
  | c :: cs =>
    match Mode.ofLetter? c with
    | some m =>
      if ss.any (·.mode = m) then none else modeSwitches negated false (ss ++ [⟨m, !negated⟩]) cs
    | none => none
  | [] => none

def isGroupName : List Char → Bool
  | [] => false
  | c :: cs =>
    (c = '_' || Text.isAlphabetic c) &&
      cs.all fun c => ['_', '.', '[', ']'].contains c || Text.isAlphanumeric c

def groupName : Reader (List Char) := fun cs =>
  let name := cs.takeWhile (· ≠ '>')
  match cs.drop name.length with
  | '>' :: cs => if isGroupName name then some (name, cs) else none
  | _ => none

/-- How a group begins. -/
inductive Opening where
  | plain
  | called (name : List Char)
  | within (ss : List Switch)
  /-- No group at all: the modes change up to the end of the group around. -/
  | switch (ss : List Switch)

/-- What follows an opening parenthesis. Looking ahead or back is not possible, and a group of
nothing but a question mark is none. -/
def opening : Reader Opening
  | '?' :: '=' :: _ => none
  | '?' :: '!' :: _ => none
  | '?' :: '<' :: '=' :: _ => none
  | '?' :: '<' :: '!' :: _ => none
  | '?' :: 'P' :: '<' :: cs => (groupName cs).map fun (name, cs) => (.called name, cs)
  | '?' :: '<' :: cs => (groupName cs).map fun (name, cs) => (.called name, cs)
  | '?' :: cs =>
    match modeSwitches false false [] cs with
    | some ((ss, false), cs) => some (.within ss, cs)
    | some (([], true), _) => none
    | some ((ss, true), cs) => some (.switch ss, cs)
    | none => none
  | cs => some (.plain, cs)

end ServicePublisher.Pattern
