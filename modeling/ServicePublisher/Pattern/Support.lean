import ServicePublisher.Pattern.Tree

/-! Which expressions can be used. Values are compared character by character and without tables of
Unicode: so there are no classes of digits, blanks or words, no edges of words, and no letters in
either case, unless an expression turns Unicode off; then it must not match parts of a character. -/
namespace ServicePublisher.Pattern

/-- The modes that matter to what can be used. -/
structure Modes where
  caseless : Bool := false
  unicode : Bool := true
deriving DecidableEq, Repr

def Modes.apply (m : Modes) (ss : List Switch) : Modes :=
  ⟨switched .caseless m.caseless ss, switched .unicode m.unicode ss⟩

def Atom.isSupported (m : Modes) : Atom → Bool
  | .char c byte => if m.unicode then !m.caseless else !byte || c.toNat < 0x80
  | .any => m.unicode
  | .edge => true
  | .wordEdge => !m.unicode
  | .kind complement => !m.unicode && !complement

mutual

/-- Whether a set can be used. Without Unicode a complement would hold parts of characters. -/
def CharSet.isSupported (m : Modes) : CharSet → Bool
  | .nothing => true
  | .char c _ => if m.unicode then !m.caseless else c.toNat < 0x80
  | .range s t => s.isSupported m && t.isSupported m
  | .named complement => if m.unicode then !m.caseless else !complement
  | .kind complement => !m.unicode && !complement
  | .brackets complement s => s.isSupported m && (m.unicode || !complement)
  | .union ss => CharSet.areSupported m ss
  | .combined s t => s.isSupported m && t.isSupported m

def CharSet.areSupported (m : Modes) : List CharSet → Bool
  | [] => true
  | s :: ss => s.isSupported m && CharSet.areSupported m ss

end

mutual

/-- The modes after an expression that can be used. Switches last to the end of their group. -/
def modesAfter? (m : Modes) : Pattern → Option Modes
  | .empty => some m
  | .switches ss => some (m.apply ss)
  | .atom a => if a.isSupported m then some m else none
  | .set s => if s.isSupported m then some m else none
  | .repeated p => modesAfter? m p
  | .group ss p => (modesAfter? (m.apply ss) p).map fun _ => m
  | .sequence ps => modesAfterAll? m ps
  | .branches ps => modesAfterAll? m ps

def modesAfterAll? (m : Modes) : List Pattern → Option Modes
  | [] => some m
  | p :: ps => (modesAfter? m p).bind fun m => modesAfterAll? m ps

end

def depthLimit : Nat := 250

def isSupported (p : Pattern) : Bool := p.depth ≤ depthLimit && (modesAfter? {} p).isSome

end ServicePublisher.Pattern
