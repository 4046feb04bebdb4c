import ServicePublisher.Provider

/-! The calls that servers and registries receive. -/
namespace ServicePublisher

/-- What a collaborator sees of the provider for whose sake it is called. -/
structure ConfigView where
  config : ProviderConfig
  attributes : Attributes

inductive ServerRequest where
  | create
  /-- Calls under the key of the configuration go to the invoker from now on. -/
  | register (view : ConfigView) (invoker : Invoker)
  | start
  /-- Calls under the key go nowhere any more; a server left without any may close if told so. -/
  | unregister (view : ConfigView) (close : Bool)

inductive RegistryRequest where
  | create
  | init
  | start
  | register (view : ConfigView)
  | unregister (view : ConfigView)

/-- A call. A registry is known by its group of services and the configuration that created it. -/
inductive Call where
  | server (s : ServerConfig) (request : ServerRequest)
  | registry (group : Nat) (r : RegistryConfig) (request : RegistryRequest)

namespace Call

def view? : Call → Option ConfigView
  | .server _ (.register v _) => some v
  | .server _ (.unregister v _) => some v
  | .registry _ _ (.register v) => some v
  | .registry _ _ (.unregister v) => some v
  | _ => none

def id : Call → String
  | .server s _ => s.id
  | .registry _ r _ => r.id

def name : Call → String
  | .server _ .create => "server.create"
  | .server _ (.register ..) => "server.register"
  | .server _ .start => "server.start"
  | .server _ (.unregister ..) => "server.unregister"
  | .registry _ _ .create => "registry.create"
  | .registry _ _ .init => "registry.init"
  | .registry _ _ .start => "registry.start"
  | .registry _ _ (.register _) => "registry.register"
  | .registry _ _ (.unregister _) => "registry.unregister"

end Call

end ServicePublisher
