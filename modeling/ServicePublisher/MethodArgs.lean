import ServicePublisher.Interface
import Std.Data.ExtTreeMap

/-! The parameter types of published methods, kept for those who decode requests. Each method is
known by its interface and its name, and the last declaration of a name counts. -/
namespace ServicePublisher

structure MethodId where
  interface : String
  name : String
deriving DecidableEq, Repr

namespace MethodId

instance : Ord MethodId := ⟨compareLex (compareOn MethodId.interface) (compareOn MethodId.name)⟩

instance : Std.TransOrd MethodId :=
  inferInstanceAs
    (Std.TransCmp (compareLex (compareOn MethodId.interface) (compareOn MethodId.name)))

instance : Std.LawfulEqOrd MethodId where
  eq_of_compare {a b} h := by
    obtain ⟨h₁, h₂⟩ : compare a.interface b.interface = .eq ∧ compare a.name b.name = .eq := by
      simpa [compare, compareLex, compareOn, Ordering.then_eq_eq] using h
    cases a
    cases b
    simp_all

end MethodId

structure MethodArgs where
  params : Std.ExtTreeMap MethodId (List String) := ∅

namespace MethodArgs

instance : EmptyCollection MethodArgs := ⟨{}⟩

/-- The table with the parameter types of a method written over what it had for that name. -/
def record (t : MethodArgs) (interface : String) (m : Method) : MethodArgs :=
  ⟨t.params.insert ⟨interface, m.name⟩ m.params⟩

def get? (t : MethodArgs) (interface name : String) : Option (List String) :=
  t.params[(⟨interface, name⟩ : MethodId)]?

def size (t : MethodArgs) : Nat := t.params.size

def recordAll (t : MethodArgs) (i : Interface) : MethodArgs :=
  i.methods.foldl (fun t m => t.record i.id m) t

theorem get?_record (t : MethodArgs) (interface : String) (m : Method) (interface' name : String) :
    (t.record interface m).get? interface' name =
      if interface = interface' ∧ m.name = name then some m.params else t.get? interface' name := by
  simp [get?, record, Std.ExtTreeMap.getElem?_insert]

end MethodArgs

end ServicePublisher
