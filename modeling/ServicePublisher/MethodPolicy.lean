import ServicePublisher.Text.Blank
import ServicePublisher.Text.Split
import ServicePublisher.Interface
import Std.Data.ExtTreeMap

/-! Which methods of an interface may be called from outside. Two lists of names separated by commas
decide, one of included and one of excluded names, and each name of the interface is decided
once. -/
namespace ServicePublisher

def allMethods : String := "*"

/-- The names of a list, each without its outer blanks. -/
def tokens (list : String) : List String :=
  (Text.pieces ',' list.toList).map fun p => String.ofList (Text.trimmed p)

/-- A list that admits every method: nothing but blanks, a star, or the word "all" in any case. -/
def isWildcard (list : String) : Bool :=
  let cs := Text.trimmed list.toList
  cs.isEmpty || cs == ['*'] || cs.map Char.toLower == ['a', 'l', 'l']

def listed (list name : String) : Bool := (tokens list).contains name

/-- Whether the first list includes a name and the second does not exclude it. -/
def inList (included excluded name : String) : Bool :=
  if !isWildcard included && !listed included name then false
  else if (Text.trimmed excluded.toList).isEmpty then true
  else !listed excluded name

structure MethodPolicy where
  decisions : Std.ExtTreeMap String Bool := ∅
  /-- The names declared more than once, in the order of their second declarations. -/
  overloaded : List String := []
deriving DecidableEq

namespace MethodPolicy

instance : EmptyCollection MethodPolicy := ⟨{}⟩

/-- One more declaration. A name already decided keeps its decision and counts as overloaded. -/
def meet (decide : String → Bool) (p : MethodPolicy) (name : String) : MethodPolicy :=
  if p.decisions.contains name then
    if p.overloaded.contains name then p else { p with overloaded := p.overloaded ++ [name] }
  else { p with decisions := p.decisions.insert name (decide name) }

def resolve (i : Interface) (included excluded : String) : MethodPolicy :=
  i.names.foldl (meet (inList included excluded)) ∅

/-- Whether a method may be called; names that are not declared may not. -/
def allows (p : MethodPolicy) (name : String) : Bool := p.decisions[name]?.getD false

def allowed (p : MethodPolicy) : List String :=
  (p.decisions.toList.filter (·.2)).map (·.1)

def size (p : MethodPolicy) : Nat := p.decisions.size

end MethodPolicy

/-- The names of a list that occurred before, in `seen` or earlier in the list, one for each
time. -/
def repeats (seen : List String) : List String → List String
  | [] => []
  | n :: ns => if n ∈ seen then n :: repeats seen ns else repeats (n :: seen) ns

def Interface.repeated (i : Interface) : List String := repeats [] i.names

end ServicePublisher
