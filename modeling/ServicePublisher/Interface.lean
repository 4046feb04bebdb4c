import ServicePublisher.Text.Record
import ServicePublisher.Text.Quoted

/-! Interfaces of services and the objects that implement them. An interface lists its methods in
the order of their declaration; a name may be declared more than once. -/
namespace ServicePublisher

structure Method where
  name : String
  params : List String := []
deriving DecidableEq, Repr

/-- An interface under its public name; `typeName` is the type whose objects implement it. -/
structure Interface where
  id : String
  typeName : String
  methods : List Method
deriving DecidableEq, Repr

/-- An object handed over as the implementation of the interface type it names. -/
structure Implementation where
  typeName : String
deriving DecidableEq, Repr

namespace Interface

/-- The declared names in order, one for each declaration. -/
def names (i : Interface) : List String := i.methods.map Method.name

def declares (i : Interface) (name : String) : Bool := i.methods.any (·.name == name)

/-- An object implements the interfaces made of the type it was handed over under. -/
def isImplementedBy (i : Interface) (x : Implementation) : Bool := x.typeName == i.typeName

theorem declares_iff {i : Interface} {name : String} : i.declares name = true ↔ name ∈ i.names := by
  simp [declares, names]

def shown (i : Interface) : String :=
  Text.shownRecord "ServiceInterface"
    [("id", Text.quoted i.id), ("type_name", Text.quoted i.typeName),
      ("methods", toString i.methods.length)]

end Interface

namespace Implementation

/-- The object as one of the given type, if it was handed over as such. -/
def as? (x : Implementation) (typeName : String) : Option Implementation :=
  if x.typeName = typeName then some x else none

def shown (x : Implementation) : String :=
  Text.shownPart "ServiceRef" [("type_name", Text.quoted x.typeName)]

end Implementation

end ServicePublisher
