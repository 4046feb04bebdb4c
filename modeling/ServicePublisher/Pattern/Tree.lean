/-! Regular expressions, by which the values of fields can be compared. A tree keeps what decides
whether an expression can be used: which characters and classes it names, how deep it is, and which
modes it sets where. -/
namespace ServicePublisher

namespace Pattern

inductive Mode where
  | caseless
  | multiLine
  | anyLine
  | lazy
  | unicode
  | carriageReturn
  | verbose
deriving DecidableEq, Repr

def Mode.ofLetter? : Char → Option Mode
  | 'i' => some .caseless
  | 'm' => some .multiLine
  | 's' => some .anyLine
  | 'U' => some .lazy
  | 'u' => some .unicode
  | 'R' => some .carriageReturn
  | 'x' => some .verbose
  | _ => none

structure Switch where
  mode : Mode
  on : Bool
deriving DecidableEq, Repr

/-- A mode after switches: the last switch of it decides, and none leaves it as it was. -/
def switched (m : Mode) (before : Bool) (switches : List Switch) : Bool :=
  ((switches.filter (·.mode = m)).getLast?.map Switch.on).getD before

inductive Atom where
  /-- A character; `byte` tells that two hexadecimal digits name it. -/
  | char (c : Char) (byte : Bool)
  /-- Any character, perhaps but for line ends. -/
  | any
  /-- The start or the end of a line or of the text. -/
  | edge
  /-- A place where a word begins or ends, or where none does. -/
  | wordEdge
  /-- Digits, blanks or the characters of words, or all but these. -/
  | kind (complement : Bool)
deriving DecidableEq, Repr

inductive CharSet where
  | nothing
  | char (c : Char) (byte : Bool)
  | range (first last : CharSet)
  /-- A class with a name between colons. -/
  | named (complement : Bool)
  | kind (complement : Bool)
  | brackets (complement : Bool) (s : CharSet)
  | union (ss : List CharSet)
  /-- The intersection or a difference of two sets. -/
  | combined (left right : CharSet)

end Pattern

inductive Pattern where
  | empty
  | switches (ss : List Pattern.Switch)
  | atom (a : Pattern.Atom)
  | set (s : Pattern.CharSet)
  | repeated (p : Pattern)
  | group (ss : List Pattern.Switch) (p : Pattern)
  | sequence (ps : List Pattern)
  | branches (ps : List Pattern)

namespace Pattern

/-- The union of sets, which is one of them when there are no others. -/
def CharSet.ofUnion : List CharSet → CharSet
  | [] => .nothing
  | [s] => s
  | ss => .union ss

def ofSequence : List Pattern → Pattern
  | [] => .empty
  | [p] => p
  | ps => .sequence ps

def ofBranches : List Pattern → Pattern
  | [] => .empty
  | [p] => p
  | ps => .branches ps

mutual

/-- How many brackets, unions and combinations enclose one another. -/
def CharSet.depth : CharSet → Nat
  | .brackets _ s => s.depth + 1
  | .union ss => CharSet.maxDepth ss + 1
  | .combined s t => max s.depth t.depth + 1
  | .nothing | .char .. | .range .. | .named _ | .kind _ => 0

def CharSet.maxDepth : List CharSet → Nat
  | [] => 0
  | s :: ss => max s.depth (CharSet.maxDepth ss)

end

mutual

/-- How many sets, repetitions, groups, sequences and choices enclose one another. -/
def depth : Pattern → Nat
  | .empty | .switches _ | .atom _ => 0
  | .set s => s.depth
  | .repeated p => p.depth + 1
  | .group _ p => p.depth + 1
  | .sequence ps => maxDepth ps + 1
  | .branches ps => maxDepth ps + 1

def maxDepth : List Pattern → Nat
  | [] => 0
  | p :: ps => max p.depth (maxDepth ps)

end

end Pattern

end ServicePublisher
