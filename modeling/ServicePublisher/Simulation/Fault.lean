import ServicePublisher.Attributes
import ServicePublisher.World

/-! Collaborators that accept every call, except where a fault has been planned. -/
namespace ServicePublisher.Simulation

/-- A planned fault: which call on which id fails, for providers with which tags, and how often. -/
structure Fault where
  id : String
  call : String
  tag : Option String := none
  times : Option Nat := none
  error : ProviderError

namespace Fault

def carriesTag (c : Call) (tag : String) : Bool :=
  (c.view?.bind fun v => v.attributes[tagsAttribute]?) == some tag

/-- Whether a fault that is not used up concerns a call. -/
def concerns (f : Fault) (c : Call) : Bool :=
  f.id == c.id && f.call == c.name && f.times != some 0 && f.tag.all (carriesTag c)

def usedOnce (f : Fault) : Fault := { f with times := f.times.map (· - 1) }

/-- The first planned fault that concerns a call is its answer. -/
def answer (c : Call) : List Fault → Option ProviderError × List Fault
  | [] => (none, [])
  | f :: fs =>
    if f.concerns c then (some f.error, f.usedOnce :: fs)
    else
      let r := answer c fs
      (r.1, f :: r.2)

end Fault

end ServicePublisher.Simulation
