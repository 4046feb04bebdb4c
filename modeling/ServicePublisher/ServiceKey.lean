import ServicePublisher.Text.Blank
import ServicePublisher.Text.Quoted
import Std.Data.ExtTreeMap

/-! The key of a logical service: the name of its interface, with a qualifier after a colon when the
service has one. Publications are counted, bound and announced under this key. -/
namespace ServicePublisher

/-- The key of a logical service, compared by the order of its characters. -/
structure ServiceKey where
  text : String
deriving DecidableEq, Repr

namespace ServiceKey

/-- A qualifier counts without its outer blanks; an empty one counts as none. -/
def qualifier? (unique : Option String) : Option String :=
  (unique.map Text.trim).filter (· ≠ "")

def ofParts (interface : String) (unique : Option String) : ServiceKey :=
  match qualifier? unique with
  | some q => ⟨interface ++ ":" ++ q⟩
  | none => ⟨interface⟩

instance : Ord ServiceKey := ⟨fun a b => compare a.text b.text⟩

instance : Std.TransOrd ServiceKey where
  eq_swap {a b} := Std.OrientedOrd.eq_swap (a := a.text) (b := b.text)
  isLE_trans {a b c} := Std.TransOrd.isLE_trans (a := a.text) (b := b.text) (c := c.text)

instance : Std.LawfulEqOrd ServiceKey where
  compare_self {a} := Std.ReflOrd.compare_self (a := a.text)
  eq_of_compare {a b} h :=
    congrArg ServiceKey.mk (Std.LawfulEqOrd.eq_of_compare (a := a.text) (b := b.text) h)

def shown (k : ServiceKey) : String := "ProviderIdentity(" ++ Text.quoted k.text ++ ")"

end ServiceKey

end ServicePublisher
