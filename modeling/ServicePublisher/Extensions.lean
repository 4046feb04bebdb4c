import ServicePublisher.Error
import ServicePublisher.Text.Quoted
import ServicePublisher.Text.Record
import Std.Data.ExtTreeMap

/-! The factories at hand for servers and registries, one for each protocol. -/
namespace ServicePublisher

/-- A factory that makes server or registry instances, known by its label. -/
structure Factory where
  label : String
deriving DecidableEq, Repr

structure Extensions where
  servers : Std.ExtTreeMap String Factory := ∅
  registries : Std.ExtTreeMap String Factory := ∅

namespace Extensions

instance : EmptyCollection Extensions := ⟨{}⟩

/-- The factory of a server protocol, in place of one registered before. -/
def withServer (x : Extensions) (protocol : String) (f : Factory) : Extensions :=
  { x with servers := x.servers.insert protocol f }

def withRegistry (x : Extensions) (protocol : String) (f : Factory) : Extensions :=
  { x with registries := x.registries.insert protocol f }

def serverFactory (x : Extensions) (protocol : String) : Except ProviderError Factory :=
  match x.servers[protocol]? with
  | some f => .ok f
  | none => .error (.configuration "server.protocol" protocol "no server factory registered")

def registryFactory (x : Extensions) (protocol : String) : Except ProviderError Factory :=
  match x.registries[protocol]? with
  | some f => .ok f
  | none => .error (.configuration "registry.protocol" protocol "no registry factory registered")

def shown (x : Extensions) : String :=
  Text.shownRecord "Extensions"
    [("servers", Text.quotedList x.servers.keys), ("registries", Text.quotedList x.registries.keys)]

end Extensions

end ServicePublisher
