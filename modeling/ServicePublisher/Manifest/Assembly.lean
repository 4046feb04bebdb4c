import ServicePublisher.Config

/-! A configuration assembled from a manifest. The manifest refers to servers and registries by
their ids; an id stands for its first declaration. -/
namespace ServicePublisher

namespace Manifest

/-- The first declaration of a server with an id, and the factory of its protocol. -/
def server (m : Manifest) (x : Extensions) (id : String) :
    Except ProviderError (ServerSettings × Factory) :=
  match m.servers.find? (·.id = id) with
  | none => .error (.configuration "provider.servers" id "unknown server id")
  | some s => (x.serverFactory s.protocol).map fun f => (s, f)

def registry (m : Manifest) (x : Extensions) (id : String) :
    Except ProviderError RegistryConfig :=
  match m.registries.find? (·.id = id) with
  | none => .error (.configuration "provider.registries" id "unknown registry id")
  | some r => (x.registryFactory r.protocol).map fun f => ⟨r, f⟩

def numbered (serial : Nat) : List (ServerSettings × Factory) → List ServerConfig
  | [] => []
  | (s, f) :: rest => ⟨serial, s, f⟩ :: numbered (serial + 1) rest

/-- The configuration that a manifest describes for an interface and its implementation. The
configuration has the given serial number, its servers have numbers from `serverSerial` on. -/
def assemble (m : Manifest) (i : Interface) (x : Implementation) (e : Extensions)
    (serial serverSerial : Nat) : Except ProviderError ProviderConfig :=
  let p := m.provider
  if p.interface ≠ i.id then
    .error (.configuration "interface" p.interface s!"manifest does not describe interface {i.id}")
  else do
    let servers ← p.servers.mapM (m.server e)
    let registries ← p.registries.mapM (m.registry e)
    return {
      serial
      interface := i
      id := p.id
      implementation := some x
      uniqueId := p.uniqueId
      appName := p.appName.getD ""
      servers := numbered serverSerial servers
      registries
      included := p.included
      excluded := p.excluded
      delayMs := p.delayMs.toNat
      repeatLimit := p.repeatLimit
      register := p.register
      attributes := p.attributes }

end Manifest

end ServicePublisher
