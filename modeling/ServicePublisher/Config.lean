import ServicePublisher.Extensions
import ServicePublisher.ServiceKey
import ServicePublisher.Settings

/-! Configurations from which providers are published. Two configurations are the same object when
they have the same serial number, and what changes while the program runs is kept under that
number. -/
namespace ServicePublisher

structure ServerConfig where
  serial : Nat
  settings : ServerSettings
  factory : Factory
deriving DecidableEq, Repr

structure RegistryConfig where
  settings : RegistrySettings
  factory : Factory
deriving DecidableEq, Repr

/-- A provider as configured. The attributes are those it starts with. -/
structure ProviderConfig where
  serial : Nat
  interface : Interface
  id : Option String := none
  implementation : Option Implementation := none
  uniqueId : Option String := none
  appName : String := ""
  servers : List ServerConfig := []
  registries : List RegistryConfig := []
  included : String := allMethods
  excluded : String := ""
  delayMs : Nat := 0
  repeatLimit : Int32 := 1
  register : Bool := true
  attributes : Attributes := ∅

namespace ServerConfig

def id (c : ServerConfig) : String := c.settings.id

end ServerConfig

namespace RegistryConfig

def id (c : RegistryConfig) : String := c.settings.id

/-- Registries with the same protocol and address are one registry. -/
def identity (c : RegistryConfig) : String := c.settings.protocol ++ "://" ++ c.settings.address

end RegistryConfig

namespace ProviderConfig

def key (c : ProviderConfig) : ServiceKey := ServiceKey.ofParts c.interface.id c.uniqueId

/-- What must hold before anything is done for a publication: the implementation is one of the
interface, and there is a server. -/
def check (c : ProviderConfig) : Except ProviderError Unit :=
  let refuse (value : String) : Except ProviderError Unit :=
    .error (.configuration "provider.ref" value
      s!"This is not an instance of {c.interface.id} in provider config with key {c.key.text} !")
  match c.implementation with
  | none => refuse "null"
  | some x =>
    if !c.interface.isImplementedBy x then refuse x.typeName
    else if c.servers.isEmpty then
      .error (.configuration "server" "NULL"
        s!"Value of \"server\" is not specified in provider config with key {c.key.text} !")
    else .ok ()

def policy (c : ProviderConfig) : MethodPolicy :=
  MethodPolicy.resolve c.interface c.included c.excluded

end ProviderConfig

end ServicePublisher
