import ServicePublisher.MethodPolicy
import Std.Data.ExtTreeMap

/-! What a manifest declares: servers, registries, and one provider that refers to them by their
ids. -/
namespace ServicePublisher

abbrev Attributes := Std.ExtTreeMap String String

structure ServerSettings where
  id : String
  protocol : String := "bolt"
  host : String := "0.0.0.0"
  port : UInt16 := 0
  autoStart : Bool := true
deriving DecidableEq, Repr

structure RegistrySettings where
  id : String
  protocol : String
  address : String
deriving DecidableEq, Repr

structure ProviderSettings where
  interface : String
  id : Option String := none
  uniqueId : Option String := none
  appName : Option String := none
  included : String := allMethods
  excluded : String := ""
  delayMs : UInt64 := 0
  repeatLimit : Int32 := 1
  register : Bool := true
  servers : List String := []
  registries : List String := []
  attributes : Attributes := ∅
deriving DecidableEq

structure Manifest where
  provider : ProviderSettings
  servers : List ServerSettings := []
  registries : List RegistrySettings := []
deriving DecidableEq

end ServicePublisher
