import ServicePublisher.Pattern.Reader
import ServicePublisher.Pattern.Support

/-! Reading whole regular expressions. -/
namespace ServicePublisher.Pattern

/-- A group that is not closed yet, or the whole expression: the branches before the last, and the
items of the last one, the latest first. -/
structure OpenGroup where
  switches : List Switch := []
  /-- The verbose mode before the group. -/
  verbose : Bool := false
  branches : List Pattern := []
  items : List Pattern := []

namespace OpenGroup

def add (g : OpenGroup) (p : Pattern) : OpenGroup := { g with items := p :: g.items }

def branch (g : OpenGroup) : OpenGroup :=
  { g with branches := ofSequence g.items.reverse :: g.branches, items := [] }

def content (g : OpenGroup) : Pattern := ofBranches g.branch.branches.reverse

/-- The last item is repeated. There must be one, and changes of modes are none. -/
def repeatLast? (g : OpenGroup) : Option OpenGroup :=
  match g.items with
  | [] => none
  | .switches _ :: _ => none
  | p :: ps => some { g with items := .repeated p :: ps }

end OpenGroup

structure Progress where
  verbose : Bool := false
  /-- The names of groups so far; no name is given twice. -/
  names : List (List Char) := []
  around : List OpenGroup := []
  group : OpenGroup := {}

namespace Progress

def add (s : Progress) (p : Pattern) : Progress := { s with group := s.group.add p }

def enter (s : Progress) (ss : List Switch) : Progress :=
  { s with
    verbose := switched .verbose s.verbose ss
    around := s.group :: s.around
    group := { switches := ss, verbose := s.verbose } }

def leave? (s : Progress) : Option Progress :=
  match s.around with
  | [] => none
  | g :: around =>
    some { s with
      verbose := s.group.verbose
      around
      group := g.add (.group s.group.switches s.group.content) }

def begin? (s : Progress) : Opening → Option Progress
  | .plain => some (s.enter [])
  | .within ss => some (s.enter ss)
  | .called name =>
    if s.names.contains name then none else some ({ s with names := name :: s.names }.enter [])
  | .switch ss => some ({ s with verbose := switched .verbose s.verbose ss }.add (.switches ss))

/-- The last item of the group is repeated; a question mark after that belongs to the repetition. -/
def repeat? (s : Progress) (cs : List Char) : Option (Progress × List Char) :=
  s.group.repeatLast?.map fun group =>
    ({ s with group }, match cs with
      | '?' :: cs => cs
      | cs => cs)

def step? (s : Progress) : List Char → Option (Progress × List Char)
  | [] => none
  | '(' :: cs =>
    (opening (skip s.verbose cs)).bind fun (o, cs) => (s.begin? o).map fun s => (s, cs)
  | ')' :: cs => s.leave?.map fun s => (s, cs)
  | '|' :: cs => some ({ s with group := s.group.branch }, cs)
  | '[' :: cs => (charSet s.verbose cs).map fun (x, cs) => (s.add (.set x), cs)
  | '?' :: cs => s.repeat? cs
  | '*' :: cs => s.repeat? cs
  | '+' :: cs => s.repeat? cs
  | '\x7b' :: _ => none
  | '\\' :: cs => (escape s.verbose cs).map fun (a, cs) => (s.add (.atom a), cs)
  | '.' :: cs => some (s.add (.atom .any), cs)
  | '^' :: cs => some (s.add (.atom .edge), cs)
  | '$' :: cs => some (s.add (.atom .edge), cs)
  | c :: cs => some (s.add (.atom (.char c false)), cs)

/-- Reads to the end of an expression in at most `n` steps. -/
def run? : Nat → Progress → List Char → Option Progress
  | 0, _, _ => none
  | n + 1, s, cs =>
    match skip s.verbose cs with
    | [] => some s
    | cs => (s.step? cs).bind fun (s, cs) => run? n s cs

end Progress

/-- Reads an expression. All its groups must be closed. -/
def ofText? (cs : List Char) : Option Pattern :=
  (Progress.run? (cs.length + 1) {} cs).bind fun s =>
    if s.around.isEmpty then some s.group.content else none

def isUsable (cs : List Char) : Bool := (ofText? cs).any isSupported

end ServicePublisher.Pattern
